import ReplicaSetOperator.Object.Metadata
import ReplicaSetOperator.Proofs.Object.Lenient

/-!
# Metadata of objects

What is found in metadata that has been written. Members that are carried along do not stand in the
way of those that are looked into, as long as they have the names that are carried along
(`ObjectMeta.Tidy`); metadata that has been read is tidy (`ObjectMeta.tidy_read`).
-/

namespace ReplicaSetOperator

/-- Reading the texts of members again changes none of their names. -/
theorem Json.map_fst_rereadMembers (ms : Json.Members) :
    (Json.rereadMembers ms).map Prod.fst = ms.map Prod.fst := by
  induction ms with
  | nil => rfl
  | cons m ms ih =>
    obtain ⟨name, j⟩ := m
    rw [rereadMembers, List.map_cons, List.map_cons, ih]

/-- What is carried along has a name that is carried along. -/
theorem Passive.name_of_mem_collect {fields : List PassiveField} {j : Json} {name : String}
    (h : name ∈ (collect fields j).map Prod.fst) : name ∈ fields.map (·.name) := by
  obtain ⟨m, mem, rfl⟩ := List.mem_map.1 h
  obtain ⟨f, field, same⟩ := List.mem_filterMap.1 (Json.mem_sortMembers mem)
  refine List.mem_map.2 ⟨f, field, ?_⟩
  split at same
  · cases same
    rfl
  · split at same
    · cases same
      rfl
    · cases same

/-- What is carried along depends on the members of these names alone. -/
theorem Passive.collect_congr {fields : List PassiveField} {i j : Json}
    (same : ∀ f ∈ fields, i.get? f.name = j.get? f.name) : collect fields i = collect fields j := by
  refine congrArg Json.sortMembers ?_
  induction fields with
  | nil => rfl
  | cons f fields ih =>
    obtain ⟨first, rest⟩ := List.forall_mem_cons.1 same
    rw [List.filterMap_cons, List.filterMap_cons, Lenient.present?_congr first, ih rest]

/-- Nothing is carried along from a record without such members. -/
theorem Passive.collect_recordWith {fields : List PassiveField}
    {members : List (String × Option Json)} (distinct : (members.map Prod.fst).Nodup)
    (others : ∀ f ∈ fields, f.required = false ∧ f.name ∉ members.map Prod.fst) :
    collect fields (Json.recordWith members []) = [] := by
  show Json.sortMembers _ = Json.sortMembers []
  refine congrArg Json.sortMembers (List.filterMap_eq_nil_iff.2 fun f mem => ?_)
  obtain ⟨optional, apart⟩ := others f mem
  have unwritten : members.lookup f.name = none := List.lookup_eq_none_iff.2 fun m there => by
    rw [bne_iff_ne]
    exact fun same => apart (same ▸ List.mem_map_of_mem there)
  have absent : (Json.recordWith members []).get? f.name = none := by
    rw [Json.get?_recordWith_of_notMem distinct List.not_mem_nil, unwritten]
    rfl
  rw [Lenient.present?_of_absent absent, optional]
  rfl

namespace ObjectMeta

/-- The members that are carried along have none of the names that are looked into. -/
def Tidy (m : ObjectMeta) : Prop :=
  ∀ name ∈ m.other.map Prod.fst, name ∈ ["managedFields", "selfLink"]

/-- Metadata that has been read is tidy. -/
theorem tidy_read (j : Json) : (format.read j).Tidy :=
  fun _ h => Passive.name_of_mem_collect h

theorem Tidy.reread {m : ObjectMeta} (h : m.Tidy) : m.reread.Tidy := by
  intro name mem
  rw [ObjectMeta.reread, Json.map_fst_rereadMembers] at mem
  exact h name mem

theorem tidy_of_other_eq_nil {m : ObjectMeta} (h : m.other = []) : m.Tidy := by
  intro name mem
  rw [h] at mem
  cases mem

variable {m : ObjectMeta}

/-- The members that are looked into, as they are written. -/
def written (m : ObjectMeta) : List (String × Option Json) :=
  [("annotations", m.annotations.map Format.labels.write),
   ("creationTimestamp", m.creationTimestamp.map Format.time.write),
   ("deletionGracePeriodSeconds", m.deletionGracePeriodSeconds.map Format.int64.write),
   ("deletionTimestamp", m.deletionTimestamp.map Format.time.write),
   ("finalizers", m.finalizers.map Format.string.list.write),
   ("generateName", m.generateName.map .string),
   ("generation", m.generation.map Format.int64.write),
   ("labels", m.labels.map Format.labels.write), ("name", m.name.map .string),
   ("namespace", m.namespace.map .string),
   ("ownerReferences", m.ownerReferences.map OwnerReference.format.list.write),
   ("resourceVersion", m.resourceVersion.map .string), ("uid", m.uid.map .string)]

theorem write_eq (m : ObjectMeta) : format.write m = Json.recordWith m.written m.other := rfl

/-- No member is written twice. -/
theorem nodup_written (m : ObjectMeta) : (m.written.map Prod.fst).Nodup := by
  simp [written]

/-- A member of metadata that has been written. -/
theorem get?_write (tidy : m.Tidy) {name : String} (apart : name ∉ ["managedFields", "selfLink"]) :
    (format.write m).get? name = (m.written.lookup name).join := by
  rw [write_eq]
  exact Json.get?_recordWith_of_notMem m.nodup_written fun mem => apart (tidy name mem)

theorem get?_write_name (tidy : m.Tidy) :
    (format.write m).get? "name" = m.name.map .string := by
  rw [get?_write tidy (by simp)]
  simp [written, List.lookup_cons]

theorem get?_write_namespace (tidy : m.Tidy) :
    (format.write m).get? "namespace" = m.namespace.map .string := by
  rw [get?_write tidy (by simp)]
  simp [written, List.lookup_cons]

theorem get?_write_resourceVersion (tidy : m.Tidy) :
    (format.write m).get? "resourceVersion" = m.resourceVersion.map .string := by
  rw [get?_write tidy (by simp)]
  simp [written, List.lookup_cons]

/-! ### Metadata with one member put into it -/

variable {name : String} {v : Json}

/-- What is read of other members stays when one is set. -/
theorem present?_set_of_ne {α : Type} (f : Format α) (j : Json) {other : String}
    (apart : other ≠ name) : f.present? other (j.set name v) = f.present? other j :=
  f.present?_congr ((Json.get?_set j other name v).trans (if_neg apart))

/-- So does what is carried along, if none of its members is set. -/
theorem collect_set (j : Json) (apart : name ∉ ["managedFields", "selfLink"]) :
    Passive.collect otherFields (j.set name v) = Passive.collect otherFields j := by
  refine Passive.collect_congr fun f mem => (Json.get?_set j f.name name v).trans (if_neg ?_)
  rintro rfl
  refine apart ?_
  simp only [otherFields, List.mem_cons, List.not_mem_nil, or_false] at mem
  rcases mem with rfl | rfl
  · exact List.mem_cons_self ..
  · exact List.mem_cons_of_mem _ (List.mem_cons_self ..)

/-- A resource version that is set is read, and nothing else changes. -/
theorem read_set_resourceVersion (j : Json) (version : String) :
    format.read (j.set "resourceVersion" (.string version)) =
      { format.read j with resourceVersion := some version } := by
  have there : Format.string.present? "resourceVersion"
      (j.set "resourceVersion" (.string version)) = some version :=
    Format.present?_of_get? ((Json.get?_set j _ _ _).trans (if_pos rfl)) (by rintro ⟨⟩)
  show ObjectMeta.mk _ _ _ _ _ _ _ _ _ _ _ _ _ _ = ObjectMeta.mk _ _ _ _ _ _ _ _ _ _ _ _ _ _
  rw [there, collect_set j (by simp)]
  repeat rw [present?_set_of_ne _ j (by simp)]
  rfl

theorem read_set_annotations (j : Json) {annotations : Json} (there : annotations ≠ .null) :
    format.read (j.set "annotations" annotations) =
      { format.read j with annotations := some (Format.labels.read annotations) } := by
  have set : Format.labels.present? "annotations" (j.set "annotations" annotations) =
      some (Format.labels.read annotations) :=
    Format.present?_of_get? ((Json.get?_set j _ _ _).trans (if_pos rfl)) there
  show ObjectMeta.mk _ _ _ _ _ _ _ _ _ _ _ _ _ _ = ObjectMeta.mk _ _ _ _ _ _ _ _ _ _ _ _ _ _
  rw [set, collect_set j (by simp)]
  repeat rw [present?_set_of_ne _ j (by simp)]
  rfl

/-! ### What metadata says of an object -/

/-- Two objects have the same names and labels, are said the same about, and belong to the same
owners. -/
structure Alike (m n : ObjectMeta) : Prop where
  name : m.name = n.name
  «namespace» : m.namespace = n.namespace
  labels : m.labels = n.labels
  annotations : m.annotations = n.annotations
  ownerReferences : m.ownerReferences = n.ownerReferences

theorem Alike.trans {m n o : ObjectMeta} (h : m.Alike n) (h' : n.Alike o) : m.Alike o where
  name := h.name.trans h'.name
  «namespace» := h.namespace.trans h'.namespace
  labels := h.labels.trans h'.labels
  annotations := h.annotations.trans h'.annotations
  ownerReferences := h.ownerReferences.trans h'.ownerReferences

end ObjectMeta

theorem Format.labels_read_write (l : Labels) : labels.read (labels.write l) = l :=
  dictionary_read_write (fun _ => rfl) l

/-- A reference to an owner is read as it was written. -/
theorem OwnerReference.read_write (o : OwnerReference) : format.read (format.write o) = o := by
  let members : List (String × Option Json) :=
    [("apiVersion", some (.string o.apiVersion)),
     ("blockOwnerDeletion", o.blockOwnerDeletion.map .bool),
     ("controller", o.controller.map .bool), ("kind", some (.string o.kind)),
     ("name", some (.string o.name)), ("uid", some (.string o.uid))]
  -- texts and flags are read from the members, which stand as they were written
  have there (name : String) : (format.write o).get? name = (members.lookup name).join :=
    Json.get?_record name (by simp)
  have text {name s : String} (h : (format.write o).get? name = some (.string s)) :
      Format.string.presentD name "" (format.write o) = s := by
    rw [Format.presentD, Format.present?_of_get? h (by rintro ⟨⟩)]
    rfl
  have flag {name : String} {b? : Option Bool}
      (h : (format.write o).get? name = b?.map Format.bool.write) :
      Format.bool.present? name (format.write o) = b? :=
    Format.present?_of_same h (by rintro b ⟨⟩) fun _ => rfl
  show OwnerReference.mk _ _ _ _ _ _ = o
  rw [text (there "apiVersion"), flag (there "blockOwnerDeletion"), flag (there "controller"),
    text (there "kind"), text (there "name"), text (there "uid")]

namespace ObjectMeta

/-- Metadata that has been written is read as saying the same of the object. -/
theorem alike_read_write {m : ObjectMeta} (tidy : m.Tidy) :
    (format.read (format.write m)).Alike m := by
  -- all that is compared is texts, labels or references, and each is read as it was written
  have text {name : String} {s? : Option String}
      (h : (format.write m).get? name = s?.map Format.string.write) :
      Format.string.present? name (format.write m) = s? :=
    Format.present?_of_same h (by rintro s ⟨⟩) fun _ => rfl
  have labels {name : String} {l? : Option Labels}
      (h : (format.write m).get? name = l?.map Format.labels.write) :
      Format.labels.present? name (format.write m) = l? :=
    Format.present?_of_same h (by rintro l ⟨⟩) Format.labels_read_write
  refine ⟨text (get?_write_name tidy), text (get?_write_namespace tidy),
    labels (get?_write tidy (by simp)), labels (get?_write tidy (by simp)), ?_⟩
  exact Format.present?_of_same (get?_write tidy (by simp)) (by rintro owners ⟨⟩)
    (Format.list_read_write OwnerReference.read_write)

end ObjectMeta

end ReplicaSetOperator

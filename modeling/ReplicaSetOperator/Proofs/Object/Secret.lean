import ReplicaSetOperator.Object.Secret
import ReplicaSetOperator.Proofs.Object.Metadata
import ReplicaSetOperator.Proofs.Text.Octets

/-!
# Secrets that are read and written

The entries of a secret that has been written are those that are read from it
(`Secret.data_read_write`), and its names and its resource version stand where a server looks for
them.
-/

namespace ReplicaSetOperator

namespace Format

theorem bytes_read_write (b : Bytes) : bytes.read (bytes.write b) = b := by
  simp [bytes, Json.string?, Base64.decode?_encode]

theorem secretData_read_write (d : SecretData) : secretData.read (secretData.write d) = d :=
  dictionary_read_write bytes_read_write d

end Format

namespace Secret

/-- The members of a secret, as they are written. -/
def written (s : Secret) : List (String × Option Json) :=
  objectType.members ++
    [("metadata", some (ObjectMeta.format.write s.metadata)),
     ("data", s.data.map Format.secretData.write), ("immutable", s.immutable.map .bool),
     ("stringData", s.stringData.map Format.labels.write), ("type", s.type.map .string)]

theorem write_eq (s : Secret) : format.write s = Json.record s.written := rfl

theorem nodup_written (s : Secret) : (s.written.map Prod.fst).Nodup := by
  simp [written, ObjectType.members]

theorem get?_write_metadata (s : Secret) :
    (format.write s).get? "metadata" = some (ObjectMeta.format.write s.metadata) := by
  rw [write_eq, Json.get?_record _ s.nodup_written]
  simp [written, ObjectType.members, List.lookup_cons]

theorem get?_write_data (s : Secret) :
    (format.write s).get? "data" = s.data.map Format.secretData.write := by
  rw [write_eq, Json.get?_record _ s.nodup_written]
  simp [written, ObjectType.members, List.lookup_cons]

/-- A value with the data of a secret is read with that data. -/
theorem data_of_get? {s : Secret} {j : Json} (same : j.get? "data" = (format.write s).get? "data") :
    (format.read j).data = s.data := by
  rw [get?_write_data] at same
  show Format.secretData.present? "data" j = s.data
  cases data : s.data with
  | none => exact Format.present?_of_absent (by rw [same, data]; rfl)
  | some d =>
    have there : j.get? "data" = some (Format.secretData.write d) := by rw [same, data]; rfl
    rw [Format.present?_of_get? there (by rintro ⟨⟩), Format.secretData_read_write]

theorem data_read_write (s : Secret) : (format.read (format.write s)).data = s.data :=
  data_of_get? rfl

/-- A value with the texts of a secret is read with those texts. -/
theorem stringData_of_get? {s : Secret} {j : Json}
    (same : j.get? "stringData" = (format.write s).get? "stringData") :
    (format.read j).stringData = s.stringData := by
  rw [write_eq, Json.get?_record _ s.nodup_written] at same
  exact Format.present?_of_same same (by rintro l ⟨⟩) Format.labels_read_write

/-- A value with the type of a secret is read with that type. -/
theorem type_of_get? {s : Secret} {j : Json}
    (same : j.get? "type" = (format.write s).get? "type") : (format.read j).type = s.type := by
  rw [write_eq, Json.get?_record _ s.nodup_written] at same
  exact Format.present?_of_same same (by rintro t ⟨⟩) fun _ => rfl

/-- Two secrets are the same but for what is in them. -/
structure Alike (s t : Secret) : Prop where
  metadata : s.metadata.Alike t.metadata
  type : s.type = t.type

theorem Alike.trans {s t u : Secret} (h : s.Alike t) (h' : t.Alike u) : s.Alike u :=
  ⟨h.metadata.trans h'.metadata, h.type.trans h'.type⟩

theorem alike_refl (s : Secret) : s.Alike s := ⟨⟨rfl, rfl, rfl, rfl, rfl⟩, rfl⟩

theorem alike_reread (s : Secret) : s.reread.Alike s := ⟨⟨rfl, rfl, rfl, rfl, rfl⟩, rfl⟩

end Secret

end ReplicaSetOperator

import ReplicaSetOperator.Object.Basic

/-!
# Secrets and config maps

Objects that hold named entries: octets in a `Secret`, texts in a `ConfigMap`. A secret may hold
entries as texts beside the others; those count only where there is no entry of octets.
-/

namespace ReplicaSetOperator

/-- The entries of a secret. -/
abbrev SecretData := List (String × Bytes)

/-- The format of the entries of a secret. -/
def Format.secretData : Format SecretData := Format.bytes.dictionary

/-- Confidential entries. -/
structure Secret where
  metadata : ObjectMeta := {}
  data : Option SecretData := none
  immutable : Option Bool := none
  stringData : Option Labels := none
  type : Option String := none
deriving DecidableEq, Inhabited

namespace Secret

/-- The type of secrets. -/
def objectType : ObjectType := ⟨"v1", "Secret"⟩

/-- The metadata is written always. -/
def format : Format Secret where
  fault := Lenient.fault <|
    objectType.rules ++
    [ObjectMeta.format.lenient "metadata", Format.secretData.lenient "data",
     Format.bool.lenient "immutable", Format.labels.lenient "stringData",
     Format.string.lenient "type"]
  read j :=
    { metadata := ObjectMeta.format.presentD "metadata" {} j
      data := Format.secretData.present? "data" j
      immutable := Format.bool.present? "immutable" j
      stringData := Format.labels.present? "stringData" j
      type := Format.string.present? "type" j }
  write s := Json.record <|
    objectType.members ++
    [("metadata", some (ObjectMeta.format.write s.metadata)),
     ("data", s.data.map Format.secretData.write), ("immutable", s.immutable.map .bool),
     ("stringData", s.stringData.map Format.labels.write), ("type", s.type.map .string)]

/-- The secret that is read from the text of a secret. -/
def reread (s : Secret) : Secret := { s with metadata := s.metadata.reread }

/-- The octets of an entry. -/
def data? (s : Secret) (key : String) : Option Bytes :=
  s.data.bind (·.lookup key)

/-- The octets of an entry, which may be given as a text. -/
def entry? (s : Secret) (key : String) : Option Bytes :=
  (s.data? key).or ((s.stringData.bind (·.lookup key)).map Bytes.ofText)

end Secret

/-- Public entries. -/
structure ConfigMap where
  metadata : ObjectMeta := {}
  binaryData : Option SecretData := none
  data : Option Labels := none
  immutable : Option Bool := none
deriving DecidableEq, Inhabited

namespace ConfigMap

/-- The type of config maps. -/
def objectType : ObjectType := ⟨"v1", "ConfigMap"⟩

/-- The metadata is written always. -/
def format : Format ConfigMap where
  fault := Lenient.fault <|
    objectType.rules ++
    [ObjectMeta.format.lenient "metadata", Format.secretData.lenient "binaryData",
     Format.labels.lenient "data", Format.bool.lenient "immutable"]
  read j :=
    { metadata := ObjectMeta.format.presentD "metadata" {} j
      binaryData := Format.secretData.present? "binaryData" j
      data := Format.labels.present? "data" j
      immutable := Format.bool.present? "immutable" j }
  write m := Json.record <|
    objectType.members ++
    [("metadata", some (ObjectMeta.format.write m.metadata)),
     ("binaryData", m.binaryData.map Format.secretData.write),
     ("data", m.data.map Format.labels.write), ("immutable", m.immutable.map .bool)]

/-- The config map that is read from the text of a config map. -/
def reread (m : ConfigMap) : ConfigMap := { m with metadata := m.metadata.reread }

/-- The text of an entry. -/
def entry? (m : ConfigMap) (key : String) : Option String :=
  m.data.bind (·.lookup key)

end ConfigMap

end ReplicaSetOperator

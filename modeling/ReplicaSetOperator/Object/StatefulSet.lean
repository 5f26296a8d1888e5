import ReplicaSetOperator.Object.Basic
import ReplicaSetOperator.Object.Pod

/-!
# Stateful sets

A `StatefulSet` keeps a number of pods of one template running, each with volumes of its own.
-/

namespace ReplicaSetOperator

/-- A claim of a volume. -/
structure VolumeClaim where
  metadata : ObjectMeta := {}
  other : Json.Members := []
deriving DecidableEq, Inhabited

namespace VolumeClaim

/-- The type of claims. -/
def type : ObjectType := ⟨"v1", "PersistentVolumeClaim"⟩

/-- The members that are carried along. -/
def otherFields : List PassiveField :=
  [Passive.claimSpec.field "spec", Passive.claimStatus.field "status"]

/-- The metadata is written always. -/
def format : Format VolumeClaim where
  fault := Lenient.fault <|
    type.rules ++ ObjectMeta.format.lenient "metadata" :: Passive.rules otherFields
  read j :=
    { metadata := ObjectMeta.format.presentD "metadata" {} j
      other := Passive.collect otherFields j }
  write c := Json.recordWith
    (type.members ++ [("metadata", some (ObjectMeta.format.write c.metadata))]) c.other

end VolumeClaim

/-- What a stateful set should be. -/
structure StatefulSetSpec where
  replicas : Option Int32 := none
  selector : LabelSelector := {}
  serviceName : Option String := none
  template : PodTemplate := {}
  volumeClaimTemplates : Option (List VolumeClaim) := none
  other : Json.Members := []
deriving DecidableEq, Inhabited

namespace StatefulSetSpec

/-- The members that are carried along. -/
def otherFields : List PassiveField :=
  Passive.int32.fields ["minReadySeconds", "revisionHistoryLimit"] ++
  [(Passive.record [Passive.int32.field "start"]).field "ordinals",
   (Passive.record (Passive.text.fields ["whenDeleted", "whenScaled"])).field
     "persistentVolumeClaimRetentionPolicy",
   Passive.text.field "podManagementPolicy",
   (Passive.record
     [(Passive.record
        [Passive.intOrText.field "maxUnavailable", Passive.int32.field "partition"]).field
          "rollingUpdate",
      Passive.text.field "type"]).field "updateStrategy"]

/-- The selector and the template are written always. -/
def format : Format StatefulSetSpec where
  fault := Lenient.fault <|
    [Format.int32.lenient "replicas", LabelSelector.format.lenient "selector",
     Format.string.lenient "serviceName", PodTemplate.format.lenient "template",
     VolumeClaim.format.list.lenient "volumeClaimTemplates"] ++ Passive.rules otherFields
  read j :=
    { replicas := Format.int32.present? "replicas" j
      selector := LabelSelector.format.presentD "selector" {} j
      serviceName := Format.string.present? "serviceName" j
      template := PodTemplate.format.presentD "template" {} j
      volumeClaimTemplates := VolumeClaim.format.list.present? "volumeClaimTemplates" j
      other := Passive.collect otherFields j }
  write s := Json.recordWith
    [("replicas", s.replicas.map Format.int32.write),
     ("selector", some (LabelSelector.format.write s.selector)),
     ("serviceName", s.serviceName.map .string),
     ("template", some (PodTemplate.format.write s.template)),
     ("volumeClaimTemplates", s.volumeClaimTemplates.map VolumeClaim.format.list.write)]
    s.other

end StatefulSetSpec

/-- What a stateful set is. -/
structure StatefulSetStatus where
  observedGeneration : Option Int64 := none
  readyReplicas : Option Int32 := none
  replicas : Int32 := 0
  updatedReplicas : Option Int32 := none
  other : Json.Members := []
deriving DecidableEq, Inhabited

namespace StatefulSetStatus

/-- The members that are carried along. -/
def otherFields : List PassiveField :=
  Passive.int32.fields ["availableReplicas", "collisionCount", "currentReplicas"] ++
  Passive.text.fields ["currentRevision", "updateRevision"] ++
  [(Passive.record <|
     Passive.time.field "lastTransitionTime" :: Passive.text.fields ["message", "reason"] ++
     Passive.text.neededs ["status", "type"]).list.field "conditions"]

/-- The number of replicas is written always. -/
def format : Format StatefulSetStatus where
  fault := Lenient.fault <|
    [Format.int64.lenient "observedGeneration", Format.int32.lenient "readyReplicas",
     Format.int32.lenient "replicas", Format.int32.lenient "updatedReplicas"] ++
    Passive.rules otherFields
  read j :=
    { observedGeneration := Format.int64.present? "observedGeneration" j
      readyReplicas := Format.int32.present? "readyReplicas" j
      replicas := Format.int32.presentD "replicas" 0 j
      updatedReplicas := Format.int32.present? "updatedReplicas" j
      other := Passive.collect otherFields j }
  write s := Json.recordWith
    [("observedGeneration", s.observedGeneration.map Format.int64.write),
     ("readyReplicas", s.readyReplicas.map Format.int32.write),
     ("replicas", some (Format.int32.write s.replicas)),
     ("updatedReplicas", s.updatedReplicas.map Format.int32.write)]
    s.other

end StatefulSetStatus

/-- A number of pods with volumes of their own. -/
structure StatefulSet where
  metadata : ObjectMeta := {}
  spec : Option StatefulSetSpec := none
  status : Option StatefulSetStatus := none
deriving DecidableEq, Inhabited

namespace StatefulSet

/-- The type of stateful sets. -/
def type : ObjectType := ⟨"apps/v1", "StatefulSet"⟩

/-- The metadata is written always. -/
def format : Format StatefulSet where
  fault := Lenient.fault <|
    type.rules ++
    [ObjectMeta.format.lenient "metadata", StatefulSetSpec.format.lenient "spec",
     StatefulSetStatus.format.lenient "status"]
  read j :=
    { metadata := ObjectMeta.format.presentD "metadata" {} j
      spec := StatefulSetSpec.format.present? "spec" j
      status := StatefulSetStatus.format.present? "status" j }
  write s := Json.record <|
    type.members ++
    [("metadata", some (ObjectMeta.format.write s.metadata)),
     ("spec", s.spec.map StatefulSetSpec.format.write),
     ("status", s.status.map StatefulSetStatus.format.write)]

/-- The volumes of the pods. -/
def volumes (s : StatefulSet) : List Volume :=
  ((s.spec.bind (·.template.spec)).bind (·.volumes)).getD []

/-- Whether the latest template has been observed, and all of a number of members run it and are
ready. -/
def rolledOut (s : StatefulSet) (members : Int32) : Bool :=
  match s.status with
  | none => false
  | some status =>
    s.metadata.generation.getD 0 ≤ status.observedGeneration.getD 0 &&
      status.updatedReplicas.getD 0 == members && status.readyReplicas.getD 0 == members

end StatefulSet

end ReplicaSetOperator

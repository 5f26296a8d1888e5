import ReplicaSetOperator.Json.Reread
import ReplicaSetOperator.Object.Lenient

/-!
# Object metadata

The metadata that every Kubernetes object carries (`ObjectMeta`), references to owners, and
label selectors.
-/

namespace ReplicaSetOperator

/-- A map from texts to texts, in ascending order. -/
abbrev Labels := List (String × String)

/-- The format of labels. -/
def Format.labels : Format Labels := Format.string.dictionary

/-- A reference from an object to one that owns it. -/
structure OwnerReference where
  apiVersion : String
  blockOwnerDeletion : Option Bool := none
  controller : Option Bool := none
  kind : String
  name : String
  uid : String
deriving DecidableEq, Inhabited

/-- Everything but the two flags is written always. -/
def OwnerReference.format : Format OwnerReference where
  fault := Lenient.fault
    [Format.string.lenient "apiVersion", Format.bool.lenient "blockOwnerDeletion",
     Format.bool.lenient "controller", Format.string.lenient "kind", Format.string.lenient "name",
     Format.string.lenient "uid"]
  read j :=
    { apiVersion := Format.string.presentD "apiVersion" "" j
      blockOwnerDeletion := Format.bool.present? "blockOwnerDeletion" j
      controller := Format.bool.present? "controller" j
      kind := Format.string.presentD "kind" "" j
      name := Format.string.presentD "name" "" j
      uid := Format.string.presentD "uid" "" j }
  write o := Json.record
    [("apiVersion", some (.string o.apiVersion)),
     ("blockOwnerDeletion", o.blockOwnerDeletion.map .bool),
     ("controller", o.controller.map .bool), ("kind", some (.string o.kind)),
     ("name", some (.string o.name)), ("uid", some (.string o.uid))]

/-- What a manager of fields has claimed. -/
def Passive.managedFields : Passive :=
  .record (Passive.text.fields ["apiVersion", "fieldsType", "manager", "operation", "subresource"]
    ++ [Passive.any.field "fieldsV1", Passive.time.field "time"])

/-- The metadata of an object. -/
structure ObjectMeta where
  annotations : Option Labels := none
  creationTimestamp : Option Timestamp := none
  deletionGracePeriodSeconds : Option Int64 := none
  deletionTimestamp : Option Timestamp := none
  finalizers : Option (List String) := none
  generateName : Option String := none
  generation : Option Int64 := none
  labels : Option Labels := none
  name : Option String := none
  «namespace» : Option String := none
  ownerReferences : Option (List OwnerReference) := none
  resourceVersion : Option String := none
  uid : Option String := none
  other : Json.Members := []
deriving DecidableEq, Inhabited

namespace ObjectMeta

/-- The members that are carried along. -/
def otherFields : List PassiveField :=
  [Passive.managedFields.list.field "managedFields", Passive.text.field "selfLink"]

/-- Every member may be absent. -/
def format : Format ObjectMeta where
  fault := Lenient.fault <|
    [Format.labels.lenient "annotations", Format.time.lenient "creationTimestamp",
     Format.int64.lenient "deletionGracePeriodSeconds", Format.time.lenient "deletionTimestamp",
     Format.string.list.lenient "finalizers", Format.string.lenient "generateName",
     Format.int64.lenient "generation", Format.labels.lenient "labels",
     Format.string.lenient "name", Format.string.lenient "namespace",
     OwnerReference.format.list.lenient "ownerReferences",
     Format.string.lenient "resourceVersion", Format.string.lenient "uid"]
    ++ Passive.rules otherFields
  read j :=
    { annotations := Format.labels.present? "annotations" j
      creationTimestamp := Format.time.present? "creationTimestamp" j
      deletionGracePeriodSeconds := Format.int64.present? "deletionGracePeriodSeconds" j
      deletionTimestamp := Format.time.present? "deletionTimestamp" j
      finalizers := Format.string.list.present? "finalizers" j
      generateName := Format.string.present? "generateName" j
      generation := Format.int64.present? "generation" j
      labels := Format.labels.present? "labels" j
      name := Format.string.present? "name" j
      «namespace» := Format.string.present? "namespace" j
      ownerReferences := OwnerReference.format.list.present? "ownerReferences" j
      resourceVersion := Format.string.present? "resourceVersion" j
      uid := Format.string.present? "uid" j
      other := Passive.collect otherFields j }
  write m := Json.recordWith
    [("annotations", m.annotations.map Format.labels.write),
     ("creationTimestamp", m.creationTimestamp.map Format.time.write),
     ("deletionGracePeriodSeconds", m.deletionGracePeriodSeconds.map Format.int64.write),
     ("deletionTimestamp", m.deletionTimestamp.map Format.time.write),
     ("finalizers", m.finalizers.map Format.string.list.write),
     ("generateName", m.generateName.map .string),
     ("generation", m.generation.map Format.int64.write),
     ("labels", m.labels.map Format.labels.write), ("name", m.name.map .string),
     ("namespace", m.namespace.map .string),
     ("ownerReferences", m.ownerReferences.map OwnerReference.format.list.write),
     ("resourceVersion", m.resourceVersion.map .string), ("uid", m.uid.map .string)]
    m.other

/-- The metadata that is read from the text of metadata: what is carried along may hold any
number. -/
def reread (m : ObjectMeta) : ObjectMeta := { m with other := Json.rereadMembers m.other }

/-- The passive form of metadata. -/
def passive : Passive := .ofFormat format {}

end ObjectMeta

/-! ### Selectors -/

/-- Which labels an object has to carry to be selected. -/
structure LabelSelector where
  matchLabels : Option Labels := none
  other : Json.Members := []
deriving DecidableEq, Inhabited

namespace LabelSelector

/-- The members that are carried along. -/
def otherFields : List PassiveField :=
  [(Passive.record (Passive.text.neededs ["key", "operator"] ++
      [Passive.text.list.field "values"])).list.field "matchExpressions"]

/-- Every member may be absent. -/
def format : Format LabelSelector where
  fault := Lenient.fault <| Format.labels.lenient "matchLabels" :: Passive.rules otherFields
  read j :=
    { matchLabels := Format.labels.present? "matchLabels" j
      other := Passive.collect otherFields j }
  write s := Json.recordWith [("matchLabels", s.matchLabels.map Format.labels.write)] s.other

/-- The passive form of a selector. -/
def passive : Passive := .ofFormat format {}

end LabelSelector

end ReplicaSetOperator

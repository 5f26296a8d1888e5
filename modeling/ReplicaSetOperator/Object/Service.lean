import ReplicaSetOperator.Object.Condition
import ReplicaSetOperator.Object.Basic

/-!
# Services

A `Service` gives a set of pods a name in the network.
-/

namespace ReplicaSetOperator

/-- A port of a service; `targetPort` is the port of the pods, a number or a name. -/
structure ServicePort where
  name : Option String := none
  port : Int32
  targetPort : Option Json := none
  protocol : Option String := none
  other : Json.Members := []
deriving DecidableEq, Inhabited

namespace ServicePort

/-- The members that are carried along. -/
def otherFields : List PassiveField :=
  [Passive.text.field "appProtocol", Passive.int32.field "nodePort"]

/-- The port is written always. -/
def format : Format ServicePort where
  fault := Lenient.fault <|
    [Format.string.lenient "name", Format.int32.lenient "port",
     ⟨"targetPort", .optional, Passive.intOrText.fault⟩, Format.string.lenient "protocol"] ++
    Passive.rules otherFields
  read j :=
    { name := Format.string.present? "name" j
      port := Format.int32.presentD "port" 0 j
      targetPort := Lenient.present? "targetPort" j
      protocol := Format.string.present? "protocol" j
      other := Passive.collect otherFields j }
  write p := Json.recordWith
    [("name", p.name.map .string), ("port", some (Format.int32.write p.port)),
     ("targetPort", p.targetPort), ("protocol", p.protocol.map .string)]
    p.other

end ServicePort

/-- What a service should be. -/
structure ServiceSpec where
  clusterIP : Option String := none
  ports : Option (List ServicePort) := none
  publishNotReadyAddresses : Option Bool := none
  selector : Option Labels := none
  other : Json.Members := []
deriving DecidableEq, Inhabited

namespace ServiceSpec

/-- The members that are carried along. -/
def otherFields : List PassiveField :=
  [Passive.bool.field "allocateLoadBalancerNodePorts", Passive.int32.field "healthCheckNodePort",
   (Passive.record
     [(Passive.record [Passive.int32.field "timeoutSeconds"]).field "clientIP"]).field
       "sessionAffinityConfig"] ++
  Passive.text.list.fields
    ["clusterIPs", "externalIPs", "ipFamilies", "loadBalancerSourceRanges"] ++
  Passive.text.fields
    ["externalName", "externalTrafficPolicy", "internalTrafficPolicy", "ipFamilyPolicy",
     "loadBalancerClass", "loadBalancerIP", "sessionAffinity", "trafficDistribution", "type"]

/-- Every member may be absent. -/
def format : Format ServiceSpec where
  fault := Lenient.fault <|
    [Format.string.lenient "clusterIP", ServicePort.format.list.lenient "ports",
     Format.bool.lenient "publishNotReadyAddresses", Format.labels.lenient "selector"] ++
    Passive.rules otherFields
  read j :=
    { clusterIP := Format.string.present? "clusterIP" j
      ports := ServicePort.format.list.present? "ports" j
      publishNotReadyAddresses := Format.bool.present? "publishNotReadyAddresses" j
      selector := Format.labels.present? "selector" j
      other := Passive.collect otherFields j }
  write s := Json.recordWith
    [("clusterIP", s.clusterIP.map .string),
     ("ports", s.ports.map ServicePort.format.list.write),
     ("publishNotReadyAddresses", s.publishNotReadyAddresses.map .bool),
     ("selector", s.selector.map Format.labels.write)]
    s.other

end ServiceSpec

/-- A name in the network for a set of pods. -/
structure Service where
  metadata : ObjectMeta := {}
  spec : Option ServiceSpec := none
  other : Json.Members := []
deriving DecidableEq, Inhabited

namespace Service

/-- The type of services. -/
def type : ObjectType := ⟨"v1", "Service"⟩

/-- The members that are carried along. -/
def otherFields : List PassiveField :=
  [(Passive.record
     [Condition.passive.list.field "conditions",
      (Passive.record
        [(Passive.record
           (Passive.text.fields ["hostname", "ip", "ipMode"] ++
            [(Passive.record
               [Passive.text.field "error", Passive.int32.needed "port",
                Passive.text.needed "protocol"]).list.field "ports"])).list.field
             "ingress"]).field "loadBalancer"]).field "status"]

/-- The metadata is written always. -/
def format : Format Service where
  fault := Lenient.fault <|
    type.rules ++
    [ObjectMeta.format.lenient "metadata", ServiceSpec.format.lenient "spec"] ++
    Passive.rules otherFields
  read j :=
    { metadata := ObjectMeta.format.presentD "metadata" {} j
      spec := ServiceSpec.format.present? "spec" j
      other := Passive.collect otherFields j }
  write s := Json.recordWith
    (type.members ++
     [("metadata", some (ObjectMeta.format.write s.metadata)),
      ("spec", s.spec.map ServiceSpec.format.write)])
    s.other

end Service

end ReplicaSetOperator

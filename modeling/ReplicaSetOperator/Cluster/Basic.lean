import ReplicaSetOperator.Json.Format
import ReplicaSetOperator.Object.Condition
import ReplicaSetOperator.Object.Metadata
import ReplicaSetOperator.Object.Basic

/-!
# Clusters

A `Cluster` is the object in which a user asks for a replica set: how many members of which
version, and whether they use TLS. Its status reports what has become of it.
-/

namespace ReplicaSetOperator

/-- What a user wants of TLS. -/
structure TlsSpec where
  enabled : Bool := false
  optional : Bool := false
  certificateKeySecret : String := ""
  caConfigMap : String := ""
deriving DecidableEq, Inhabited

/-- What a user wants of a replica set. -/
structure ClusterSpec where
  members : Int32 := 3
  version : String := "6.0.5"
  featureCompatibilityVersion : Option String := none
  tls : TlsSpec := {}
deriving DecidableEq, Inhabited

/-- What has become of a cluster. -/
structure ClusterStatus where
  conditions : List Condition := []
  phase : Option String := none
  currentMembers : Option Int32 := none
  version : Option Int64 := none
  message : Option String := none
deriving DecidableEq, Inhabited

/-- A replica set that a user asks for. -/
structure Cluster where
  metadata : ObjectMeta
  spec : ClusterSpec
  status : Option ClusterStatus := none
deriving DecidableEq, Inhabited

/-! ### Formats -/

/-- A reference to an object of the same namespace by its name, which is empty if absent. -/
def Format.reference : Format String where
  fault := Record.fault [Format.string.rule "name" .defaulted]
  read := Format.string.readField ["name"] "name" ""
  write name := Json.record [("name", some (.string name))]

namespace TlsSpec

/-- The members of the settings. -/
def names : List String := ["enabled", "optional", "certificateKeySecretRef", "caConfigMapRef"]

/-- Every member may be absent, and all are written. -/
def format : Format TlsSpec where
  fault := Record.fault
    [Format.bool.rule "enabled" .defaulted, Format.bool.rule "optional" .defaulted,
     Format.reference.rule "certificateKeySecretRef" .defaulted,
     Format.reference.rule "caConfigMapRef" .defaulted]
  read j :=
    { enabled := Format.bool.readField names "enabled" false j
      optional := Format.bool.readField names "optional" false j
      certificateKeySecret := Format.reference.readField names "certificateKeySecretRef" "" j
      caConfigMap := Format.reference.readField names "caConfigMapRef" "" j }
  write t := Json.record
    [("enabled", some (.bool t.enabled)), ("optional", some (.bool t.optional)),
     ("certificateKeySecretRef", some (Format.reference.write t.certificateKeySecret)),
     ("caConfigMapRef", some (Format.reference.write t.caConfigMap))]

/-- The settings as the only ones of security. -/
def securityFormat : Format TlsSpec where
  fault := Record.fault [format.rule "tls" .defaulted]
  read := format.readField ["tls"] "tls" {}
  write t := Json.record [("tls", some (format.write t))]

end TlsSpec

namespace ClusterSpec

/-- The members of the wishes. -/
def names : List String := ["members", "version", "featureCompatibilityVersion", "security"]

/-- Every member may be absent, and all are written. -/
def format : Format ClusterSpec where
  fault := Record.fault
    [Format.int32.rule "members" .defaulted, Format.string.rule "version" .defaulted,
     Format.string.option.rule "featureCompatibilityVersion" .optional,
     TlsSpec.securityFormat.rule "security" .defaulted]
  read j :=
    { members := Format.int32.readField names "members" 3 j
      version := Format.string.readField names "version" "6.0.5" j
      featureCompatibilityVersion :=
        Format.string.option.readField names "featureCompatibilityVersion" none j
      tls := TlsSpec.securityFormat.readField names "security" {} j }
  write s := Json.record
    [("members", some (Format.int32.write s.members)), ("version", some (.string s.version)),
     ("featureCompatibilityVersion",
      some (Format.string.option.write s.featureCompatibilityVersion)),
     ("security", some (TlsSpec.securityFormat.write s.tls))]

end ClusterSpec

namespace ClusterStatus

/-- The members of a status. -/
def names : List String := ["conditions", "phase", "currentMongodbMembers", "version", "message"]

/-- Every member may be absent, and all are written. -/
def format : Format ClusterStatus where
  fault := Record.fault
    [Condition.format.list.rule "conditions" .defaulted,
     Format.string.option.rule "phase" .optional,
     Format.int32.option.rule "currentMongodbMembers" .optional,
     Format.int64.option.rule "version" .optional, Format.string.option.rule "message" .optional]
  read j :=
    { conditions := Condition.format.list.readField names "conditions" [] j
      phase := Format.string.option.readField names "phase" none j
      currentMembers := Format.int32.option.readField names "currentMongodbMembers" none j
      version := Format.int64.option.readField names "version" none j
      message := Format.string.option.readField names "message" none j }
  write s := Json.record
    [("conditions", some (Condition.format.list.write s.conditions)),
     ("phase", some (Format.string.option.write s.phase)),
     ("currentMongodbMembers", some (Format.int32.option.write s.currentMembers)),
     ("version", some (Format.int64.option.write s.version)),
     ("message", some (Format.string.option.write s.message))]

end ClusterStatus

namespace Cluster

/-- The type of clusters. -/
def type : ObjectType := ⟨"mongodb.molnett.org/v1", "MongoDBCluster"⟩

/-- The members of a cluster. -/
def names : List String := ["metadata", "spec", "status"]

/-- Metadata and wishes have to be there; a type is passed over when it is read, and written
always. -/
def format : Format Cluster where
  fault := Record.fault
    [ObjectMeta.format.rule "metadata", ClusterSpec.format.rule "spec",
     ClusterStatus.format.option.rule "status" .optional]
  read j :=
    { metadata := ObjectMeta.format.readField names "metadata" {} j
      spec := ClusterSpec.format.readField names "spec" {} j
      status := ClusterStatus.format.option.readField names "status" none j }
  write c := Json.record <|
    type.members ++
    [("metadata", some (ObjectMeta.format.write c.metadata)),
     ("spec", some (ClusterSpec.format.write c.spec)),
     ("status", c.status.map ClusterStatus.format.write)]

end Cluster

end ReplicaSetOperator

import ReplicaSetOperator.Cluster.Basic
import ReplicaSetOperator.Object.Schema
import ReplicaSetOperator.Text.Yaml

/-!
# The definition of clusters

The definition by which a server of the API learns what clusters are: their names, and the schema
of what a user may ask for and of the status.
-/

namespace ReplicaSetOperator

namespace Definition

/-- The description alone. -/
def about (description : String) : SchemaNotes := { description := some description }

/-- Notes that say that a value may be null. -/
def nullable : SchemaNotes := { nullable := true }

/-- The schema of a reference by name. -/
def referenceSchema (description : String) : Schema :=
  .object
    { about description with default := some (Format.reference.write "") }
    [("name", .text { default := some (.string "") })] []

/-- The schema of the TLS settings. -/
def tlsSchema : Schema :=
  .object { default := some (TlsSpec.format.write {}) }
    [("enabled", .boolean { default := some (.bool false) }),
     ("optional", .boolean
       { about "Accept plain connections alongside TLS ones once the rollout is complete" with
         default := some (.bool false) }),
     ("certificateKeySecretRef", referenceSchema "Secret holding `tls.crt` and `tls.key`"),
     ("caConfigMapRef", referenceSchema "ConfigMap holding `ca.crt`")]
    []

/-- The schema of what a user asks for. -/
def specSchema : Schema :=
  .object
    (about (String.join
      ["Generate the Kubernetes wrapper struct `MongoDBCluster` from our Spec and Status struct",
       "\n\nThis provides a hook for generating the CRD yaml (in crdgen)"]))
    [("members", .integer
       { about "Number of replica set members" with
         default := some (Format.int32.write ({} : ClusterSpec).members) } .int32),
     ("version", .text
       { about "MongoDB server version, e.g. `6.0.5`" with
         default := some (.string ({} : ClusterSpec).version) }),
     ("featureCompatibilityVersion", .text nullable),
     ("security", .object
       { default := some (TlsSpec.securityFormat.write {}) } [("tls", tlsSchema)] [])]
    []

/-- The schema of a condition. -/
def conditionSchema : Schema :=
  .object {}
    [("lastTransitionTime", .dateTime {}), ("message", .text {}),
     ("observedGeneration", .integer { default := some (.ofInt 0) } .int64),
     ("reason", .text {}), ("status", .text {}), ("type", .text {})]
    ["lastTransitionTime", "message", "reason", "status", "type"]

/-- The schema of the status. -/
def statusSchema : Schema :=
  .object { about "The status object of `MongoDBCluster`" with nullable := true }
    [("conditions", .keyedList { default := some (.array []) } ["type"] conditionSchema),
     ("phase", .text nullable), ("currentMongodbMembers", .integer nullable .int32),
     ("version", .integer
       { about "Version of the last automation config pushed to the members" with
         nullable := true } .int64),
     ("message", .text nullable)]
    []

/-- The schema of a cluster. -/
def clusterSchema : Schema :=
  .object
    { about "Auto-generated derived type for MongoDBClusterSpec via `CustomResource`" with
      title := some Cluster.type.kind }
    [("spec", specSchema), ("status", statusSchema)] ["spec"]

/-- The group of the interface that holds clusters. -/
def group : String := "mongodb.molnett.org"

/-- The names of clusters. -/
def names : Json :=
  Json.record
    [("categories", some (.array [])), ("kind", some (.string Cluster.type.kind)),
     ("plural", some (.string "mongodbclusters")), ("shortNames", some (Json.ofTexts ["mdbc"])),
     ("singular", some (.string "mongodbcluster"))]

/-- The only version of the interface: served and stored, with the status apart. -/
def version : Json :=
  Json.record
    [("additionalPrinterColumns", some (.array [])), ("name", some (.string "v1")),
     ("schema", some (Json.record [("openAPIV3Schema", some clusterSchema.toJson)])),
     ("served", some (.bool true)), ("storage", some (.bool true)),
     ("subresources", some (Json.record [("status", some (.object []))]))]

/-- The definition of clusters. -/
def clusters : Json :=
  Json.record
    [("apiVersion", some (.string "apiextensions.k8s.io/v1")),
     ("kind", some (.string "CustomResourceDefinition")),
     ("metadata", some (Json.record [("name", some (.string ("mongodbclusters." ++ group)))])),
     ("spec", some (Json.record
       [("group", some (.string group)), ("names", some names),
        ("scope", some (.string "Namespaced")), ("versions", some (.array [version]))]))]

/-- The definition as a YAML document. -/
def text : String := Yaml.text clusters

end Definition

end ReplicaSetOperator

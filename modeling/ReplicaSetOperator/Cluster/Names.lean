import ReplicaSetOperator.Cluster.Basic

/-!
# Names derived from a cluster

The names of the objects that belong to a cluster, the hosts of its members, and the references
that others hold to it.
-/

namespace ReplicaSetOperator

namespace Cluster

/-- The name of a cluster; the start of a generated name if it has none yet. -/
def name (c : Cluster) : String :=
  (c.metadata.name.or c.metadata.generateName).getD ""

/-- The secret with the certificate and key that the members use. -/
def operatorSecretName (c : Cluster) : String := c.name ++ "-server-certificate-key"

/-- The secret with the document that the agents read. -/
def configSecretName (c : Cluster) : String := c.name ++ "-config"

/-- The service that gives the members their host names. -/
def serviceName (c : Cluster) : String := c.name ++ "-svc"

/-- The host of the member of a given rank. -/
def host (c : Cluster) («namespace» : String) (i : Nat) : String :=
  s!"{c.name}-{i}.{c.serviceName}." ++ «namespace» ++ ".svc.cluster.local"

/-- The hosts of all members, in the order of their ranks. -/
def hosts (c : Cluster) («namespace» : String) : List String :=
  (List.range c.spec.members.toInt.toNat).map (c.host «namespace»)

/-- The labels of everything that belongs to a cluster. -/
def labels (c : Cluster) : Labels :=
  [("app.kubernetes.io/instance", c.name), ("app.kubernetes.io/managed-by", "mongodb-operator"),
   ("app.kubernetes.io/name", "mongodb")]

/-- The annotation that marks the rollout of TLS material as complete. -/
def rolloutMarker : String := "mongodb.molnett.org/tls-rolled-out"

/-- Whether the rollout of TLS material is marked as complete. -/
def tlsRolledOut (c : Cluster) : Bool :=
  (c.metadata.annotations.bind (·.lookup rolloutMarker)) == some "true"

/-- The reference by which an object is owned by a cluster. Only a stored cluster owns objects. -/
def owner (c : Cluster) : Option OwnerReference :=
  match c.metadata.name, c.metadata.uid with
  | some name, some uid =>
    some
      { apiVersion := type.apiVersion, kind := type.kind, name := name, uid := uid,
        controller := some true }
  | _, _ => none

/-- A list with the owner of an object of a cluster. -/
def owners (c : Cluster) : Option (List OwnerReference) := c.owner.map ([·])

/-- The reference by which an event tells which cluster it is about. -/
def reference (c : Cluster) : Json :=
  Json.record
    [("apiVersion", some (.string type.apiVersion)), ("kind", some (.string type.kind)),
     ("name", c.metadata.name.map .string), ("namespace", c.metadata.namespace.map .string),
     ("uid", c.metadata.uid.map .string)]

end Cluster

end ReplicaSetOperator

import ReplicaSetOperator.Cluster.Names
import ReplicaSetOperator.Tls.Rollout
import ReplicaSetOperator.Tls.VolumePlan

/-!
# What TLS needs to know of a cluster

A `TlsDescriptor` is the part of a cluster that decides about TLS: what the user wants, where the
user's material and the operator's copy of it are, and how far the rollout has come.
-/

namespace ReplicaSetOperator

/-- What TLS needs to know of a cluster. -/
structure TlsDescriptor where
  name : String := ""
  «namespace» : String := ""
  enabled : Bool := false
  optional : Bool := false
  certificateKeySecret : String := ""
  caConfigMap : String := ""
  rolloutComplete : Bool := false
  operatorSecret : String := ""
  owner : Option OwnerReference := none
deriving DecidableEq, Inhabited

namespace TlsDescriptor

/-- The mode that every member has to run. -/
def mode (d : TlsDescriptor) : TlsMode :=
  .resolve d.enabled d.optional d.rolloutComplete

/-- The volumes with the TLS files and their mounts. -/
def volumePlan (d : TlsDescriptor) : VolumePlan :=
  .tls d.caConfigMap d.operatorSecret

end TlsDescriptor

/-- The descriptor of a cluster in its namespace. -/
def Cluster.descriptor (c : Cluster) («namespace» : String) : TlsDescriptor where
  name := c.name
  «namespace» := «namespace»
  enabled := c.spec.tls.enabled
  optional := c.spec.tls.optional
  certificateKeySecret := c.spec.tls.certificateKeySecret
  caConfigMap := c.spec.tls.caConfigMap
  rolloutComplete := c.tlsRolledOut
  operatorSecret := c.operatorSecretName
  owner := c.owner

end ReplicaSetOperator

import ReplicaSetOperator.Operator.Configuration

/-!
# Applying the workload

The service and the stateful set of a cluster are applied one after the other.
-/

namespace ReplicaSetOperator

/-- Services as resources. -/
def Service.resource : Resource Service where
  type := Service.type
  format := Service.format

/-- Stateful sets as resources. -/
def StatefulSet.resource : Resource StatefulSet where
  type := StatefulSet.type
  format := StatefulSet.format

/-- Sends a request, with a plain failure. -/
def Program.requesting {α : Type} (p : Program ClientError α) : Program Failure α :=
  p.mapFailure fun e => .plain (.client e)

/-- Applies service and stateful set, and gives the latter as the server has it. -/
def Deployment.apply (c : Cluster) (images : Images) : Program Failure StatefulSet := do
  let ns ← .ofExcept c.namespaced
  let _ ← (Client.apply Service.resource ns c.serviceName (c.service ns)).requesting
  (Client.apply StatefulSet.resource ns c.name (c.statefulSet ns images)).requesting

end ReplicaSetOperator

import ReplicaSetOperator.Cluster.Report
import ReplicaSetOperator.Operator.Deployment

/-!
# Reporting the status

The status of a cluster is written by merge patches that each name the members they change. A
condition is brought up to date in the list that the server has, and written only if it changes
something there.
-/

namespace ReplicaSetOperator

/-- Clusters as resources. -/
def Cluster.resource : Resource Cluster where
  type := Cluster.type
  format := Cluster.format

namespace Status

/-- Merges members into the status of a cluster. -/
def patch (c : Cluster) (members : List (String × Option Json)) : Program Failure Unit := do
  let ns ← .ofExcept c.namespaced
  let body := Json.record [("status", some (Json.record members))]
  let _ ← (Client.mergeStatus Cluster.resource ns c.name body).requesting

/-- Reports the phase of a cluster, with a message or none. -/
def updatePhase (c : Cluster) (phase : Phase) (message : Option String) : Program Failure Unit :=
  patch c
    [("phase", some (.string phase.label)),
     ("message", some (Format.string.option.write message))]

/-- Reports the number of members and the version of the document that are live. -/
def recordMembers (c : Cluster) (members : Int32) (version : Int64) : Program Failure Unit :=
  patch c
    [("currentMongodbMembers", some (Format.int32.write members)),
     ("version", some (Format.int64.write version))]

/-- Reports a condition, in the list of conditions that the server has. -/
def setCondition (c : Cluster) (type : String) (report : Report) : Program Failure Unit := do
  let ns ← .ofExcept c.namespaced
  let current ← (Client.get Cluster.resource ns c.name).requesting
  let now ← Program.now
  let conditions := (current.status.getD {}).conditions
  let (conditions, changed) :=
    (report.condition type now current.metadata.generation).setIn conditions
  if changed then
    patch c [("conditions", some (Condition.format.list.write conditions))]
  else pure ()

end Status

end ReplicaSetOperator

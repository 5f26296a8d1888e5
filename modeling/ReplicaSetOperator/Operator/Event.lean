import ReplicaSetOperator.Object.Metadata
import ReplicaSetOperator.Operator.Status

/-!
# Events

What happens to a cluster is told in events, which are created and never changed.
-/

namespace ReplicaSetOperator

/-- Something that has happened. -/
structure Event where
  reason : String
  note : String
  action : String
deriving DecidableEq, Inhabited

namespace Event

/-- The type of events. -/
def type : ObjectType := ⟨"events.k8s.io/v1", "Event"⟩

/-- The name of any object. -/
def referenceFields : List PassiveField :=
  Passive.text.fields
    ["apiVersion", "fieldPath", "kind", "name", "namespace", "resourceVersion", "uid"]

/-- The rules of a series of events. -/
def seriesRules : List LenientRule :=
  [Format.int32.lenient "count", ⟨"lastObservedTime", .strict, Format.time.fault⟩]

/-- The members of an event. -/
def fields : List PassiveField :=
  Passive.text.fields
    ["action", "note", "reason", "reportingController", "reportingInstance", "type"] ++
  Passive.time.fields ["deprecatedFirstTimestamp", "deprecatedLastTimestamp", "eventTime"] ++
  (Passive.record referenceFields).fields ["regarding", "related"] ++
  [Passive.int32.field "deprecatedCount",
   (Passive.record (Passive.text.fields ["component", "host"])).field "deprecatedSource",
   ObjectMeta.passive.needed "metadata",
   PassiveField.mk "series" false ⟨Lenient.fault seriesRules, id, .object []⟩]

/-- Events as answers of the server. -/
def format : Format Json where
  fault := (Passive.object type fields).fault
  read j := j
  write j := j

/-- What an event of a cluster is called: its name, or that of the manager if it has none, with
the time in nanoseconds. -/
def name (c : Cluster) (now : Timestamp) : String :=
  let nanoseconds := now.seconds.toNat * 1000000000
  c.metadata.name.getD fieldManager ++ "." ++ String.ofList (Nat.toDigits 16 nanoseconds)

/-- What is sent for an event of a cluster at a time. -/
def body (e : Event) (c : Cluster) (now : Timestamp) : Json :=
  let metadata := Json.record
    [("name", some (.string (name c now))), ("namespace", c.metadata.namespace.map .string)]
  Json.record <| type.members ++
    [("metadata", some metadata), ("action", some (.string e.action)),
     ("eventTime", some (Format.time.write now)), ("note", some (.string e.note)),
     ("reason", some (.string e.reason)), ("regarding", some c.reference),
     ("reportingController", some (.string fieldManager)),
     ("reportingInstance", some (.string fieldManager)), ("type", some (.string "Normal"))]

/-- Tells an event of a cluster, in its namespace. -/
def publish (e : Event) (c : Cluster) : Program Failure Unit := do
  let ns := c.metadata.namespace.getD "default"
  let now ← Program.now
  let _ ← (Client.create { type := type, format := format } ns (name c now)
    (e.body c now)).requesting

end Event

end ReplicaSetOperator

import ReplicaSetOperator.Object.Lenient

/-!
# Conditions

A `Condition` says whether one aspect of an object holds, why, and since when. A list of them is
looked up by type, where the first of a type counts. `Condition.setIn` brings a list up to date
with a condition: the time of the last transition moves only if the status changes.
-/

namespace ReplicaSetOperator

/-- One aspect of the state of an object. -/
structure Condition where
  lastTransitionTime : Timestamp
  message : String
  observedGeneration : Option Int64
  reason : String
  status : String
  type : String
deriving DecidableEq, Inhabited

namespace Condition

/-- The time of the last transition has to be there; all else may be absent. -/
def format : Format Condition where
  fault := Lenient.fault
    [⟨"lastTransitionTime", .strict, Format.time.fault⟩, Format.string.lenient "message",
     Format.int64.lenient "observedGeneration", Format.string.lenient "reason",
     Format.string.lenient "status", Format.string.lenient "type"]
  read j :=
    { lastTransitionTime := Format.time.presentD "lastTransitionTime" default j
      message := Format.string.presentD "message" "" j
      observedGeneration := Format.int64.present? "observedGeneration" j
      reason := Format.string.presentD "reason" "" j
      status := Format.string.presentD "status" "" j
      type := Format.string.presentD "type" "" j }
  write c := Json.record
    [("lastTransitionTime", some (Format.time.write c.lastTransitionTime)),
     ("message", some (.string c.message)),
     ("observedGeneration", c.observedGeneration.map Format.int64.write),
     ("reason", some (.string c.reason)), ("status", some (.string c.status)),
     ("type", some (.string c.type))]

/-- The passive form of a condition. -/
def passive : Passive := .ofFormat format default

/-- The first condition of a type. -/
def find? (type : String) (conditions : List Condition) : Option Condition :=
  conditions.find? fun c => c.type == type

/-- Whether the first condition of a type has the status `True`. -/
def isTrue (type : String) (conditions : List Condition) : Bool :=
  (find? type conditions).any fun c => c.status == "True"

/-- An old condition with what a new one of its type says. The time of the last transition is
taken over only together with a new status. -/
def updatedBy (old new : Condition) : Condition :=
  { new with
    type := old.type
    lastTransitionTime :=
      if old.status = new.status then old.lastTransitionTime else new.lastTransitionTime }

/-- Whether two conditions differ in anything but type and time. -/
def differs (old new : Condition) : Bool :=
  old.status ≠ new.status || old.reason ≠ new.reason || old.message ≠ new.message ||
    old.observedGeneration ≠ new.observedGeneration

/-- The list with a condition brought up to date, and whether anything in it has changed. A
condition of a new type is added at the end. -/
def setIn (new : Condition) : List Condition → List Condition × Bool
  | [] => ([new], true)
  | old :: rest =>
    if old.type = new.type then (old.updatedBy new :: rest, old.differs new)
    else
      let (rest, changed) := setIn new rest
      (old :: rest, changed)

end Condition

end ReplicaSetOperator

import ReplicaSetOperator.Api.Request

/-!
# Patches of operations

How a server applies the operations of a patch, one after another. The first that does not fit
makes the whole patch fail.
-/

namespace ReplicaSetOperator

namespace Json

/-- The index that a step of a path names. -/
def index? (step : String) : Option Nat :=
  if step.isEmpty || !step.all Char.isDigit then none
  else some (step.toList.foldl (fun n d => n * 10 + (d.toNat - '0'.toNat)) 0)

/-- The part of a value that a step of a path leads to. -/
def step? (j : Json) (step : String) : Option Json :=
  match j with
  | .object ms => find? step ms
  | .array items => (index? step).bind (items[·]?)
  | _ => none

/-- The part of a value at the end of a path. -/
def follow? (j : Json) : List String → Option Json
  | [] => some j
  | step :: path => (j.step? step).bind (follow? · path)

/-- Replaces the part that a step of a path leads to. -/
def replaceStep (j : Json) (step : String) (part : Json) : Json :=
  match j with
  | .object ms => .object (insertMember step part ms)
  | .array items =>
    match index? step with
    | some i => .array (items.set i part)
    | none => j
  | j => j

/-- Changes what is around the end of a path. -/
def changeAt (change : Json → String → Option Json) : List String → Json → Option Json
  | [], _ => none
  | [last], j => change j last
  | step :: path, j => do
    let part ← j.step? step
    let part ← changeAt change path part
    some (j.replaceStep step part)

/-- Adds a member to an object, or an item at the end of an array. -/
def addPart (value : Json) (j : Json) (last : String) : Option Json :=
  match j with
  | .object ms => some (.object (insertMember last value ms))
  | .array items => if last = "-" then some (.array (items ++ [value])) else none
  | _ => none

/-- Removes an item of an array. -/
def removePart (j : Json) (last : String) : Option Json :=
  match j with
  | .array items =>
    (index? last).bind fun i => if i < items.length then some (.array (items.eraseIdx i)) else none
  | _ => none

end Json

/-- The value after an operation, if it fits. What is absent counts as null in a test. -/
def PatchOperation.apply? (j : Json) : PatchOperation → Option Json
  | .test path value => if (j.follow? path).getD .null = value then some j else none
  | .add path value => Json.changeAt (Json.addPart value) path j
  | .remove path => Json.changeAt Json.removePart path j

end ReplicaSetOperator

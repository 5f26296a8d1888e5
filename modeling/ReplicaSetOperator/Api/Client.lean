import ReplicaSetOperator.Api.Failure
import ReplicaSetOperator.Api.Program
import ReplicaSetOperator.Json.Format
import ReplicaSetOperator.Json.Reader

/-!
# The client

Requests whose answers are taken for objects of a known type. A failure that the server answers is
described by the body if that is a description, and by the code of the answer otherwise. A request
that has no address is not made. Objects are sent and answered as texts, and are read back from
them on the other side.
-/

namespace ReplicaSetOperator

/-- A type of objects with their format, and with what an object is read as from its text, where
anybody needs the parts that this may change. -/
structure Resource (α : Type) where
  type : ObjectType
  format : Format α
  reread : α → α := id

/-- The body that describes a failure. -/
structure StatusBody where
  code : Nat
  reason : String
deriving DecidableEq, Inhabited

namespace StatusBody

/-- The members of the body. -/
def names : List String := ["status", "message", "reason", "code"]

/-- The format of 16-bit natural numbers. -/
def codeFormat : Format Nat where
  fault _ := Format.integerFault 0 65535
  read j := (j.integer?.getD 0).toNat
  write n := .ofInt n

/-- Status and code have to be there. -/
def format : Format StatusBody where
  fault := Record.fault
    [Format.string.rule "status", Format.string.rule "message" .defaulted,
     Format.string.rule "reason" .defaulted, codeFormat.rule "code"]
  read j :=
    { code := codeFormat.readField names "code" 0 j
      reason := Format.string.readField names "reason" "" j }
  write b := Json.record
    [("status", some (.string "Failure")), ("message", some (.string "")),
     ("reason", some (.string b.reason)), ("code", some (codeFormat.write b.code))]

end StatusBody

/-- What the content of a response stands for in a format, if it has no fault; a value has been
through a text. Of several members with one name the last counts. -/
def Content.decode? {α : Type} (f : Format α) (reread : α → α) : Content → Option α
  | .value j => if (f.fault .value j).isNone then some (reread (f.read j)) else none
  | .text s =>
    let (j, trailing) := Json.read s.toList
    if (f.fault .text j).isNone && !trailing then some (f.read j.canonical) else none

namespace Response

/-- Whether an answer can arrive: its code has three digits. -/
def hasCode (r : Response) : Bool := 100 ≤ r.code && r.code < 1000

/-- Whether an answer is a failure. -/
def isFailure (r : Response) : Bool := 400 ≤ r.code && r.code < 600

/-- What an answer that is a failure says. -/
def failure (r : Response) : ClientError :=
  match r.content.decode? StatusBody.format id with
  | some b => .refused b.code b.reason
  | none => .refused r.code "Failed to parse error data"

/-- The object that an answer holds, if it arrives and is none of a failure. -/
def decode {α : Type} (t : Resource α) (r : Response) : Except ClientError α :=
  if !r.hasCode then .error .other
  else if r.isFailure then .error r.failure
  else
    match r.content.decode? t.format t.reread with
    | some a => .ok a
    | none => .error .undecodable

end Response

namespace Client

variable {α : Type}

/-- The object that the answer to a request holds, if the request can be made. -/
def exchange (t : Resource α) : Option Request → Program ClientError α
  | some r => .request r fun response => .ofExcept (response.decode t)
  | none => .fail .unsendable

/-- The body that holds an object, as it is read on the other side. -/
def sent (t : Resource α) (object : α) : Json := t.format.write (t.reread object)

/-- Reads an object. -/
def get (t : Resource α) («namespace» name : String) : Program ClientError α :=
  exchange t (Request.about? .get t.type «namespace» name .none false)

/-- Whether a failure says that there is no such object. -/
def isAbsence : ClientError → Bool
  | .refused _ reason => reason == "NotFound"
  | _ => false

/-- Reads an object that may be absent. -/
def get? (t : Resource α) («namespace» name : String) : Program ClientError (Option α) := do
  match ← (get t «namespace» name).attempt with
  | .ok a => pure (some a)
  | .error e => if isAbsence e then pure none else .fail e

/-- Creates an object of a given name. -/
def create (t : Resource α) («namespace» name : String) (object : α) : Program ClientError α :=
  exchange t (Request.creating? t.type «namespace» name (sent t object))

/-- Replaces an object. -/
def replace (t : Resource α) («namespace» name : String) (object : α) : Program ClientError α :=
  exchange t (Request.about? .replace t.type «namespace» name (.value (sent t object)) false)

/-- Creates or replaces an object. -/
def apply (t : Resource α) («namespace» name : String) (object : α) : Program ClientError α :=
  exchange t (Request.about? .apply t.type «namespace» name (.value (sent t object)) false)

/-- Merges a patch into an object. -/
def merge (t : Resource α) («namespace» name : String) (patch : Json) : Program ClientError α :=
  exchange t (Request.about? .merge t.type «namespace» name (.value patch) false)

/-- Merges a patch into the status of an object. -/
def mergeStatus (t : Resource α) («namespace» name : String) (patch : Json) :
    Program ClientError α :=
  exchange t (Request.about? .merge t.type «namespace» name (.value patch) true)

/-- Changes an object by the operations of a patch. -/
def patch (t : Resource α) («namespace» name : String) (operations : List PatchOperation) :
    Program ClientError α :=
  exchange t (Request.about? .json t.type «namespace» name (.patch operations) false)

end Client

end ReplicaSetOperator

import ReplicaSetOperator.Server.Patch
import ReplicaSetOperator.Server.Table

/-!
# The server

What a server of the API does with a request: it looks the object up, writes it with the next
resource version, or refuses. Applied objects keep their status and count the changes of what
they should be as generations. Events are echoed and not kept.

A server can be told to fail: a `ServerFault` answers requests that match it instead of the
server, after letting some pass.
-/

namespace ReplicaSetOperator

/-- An answer that stands in for the server's: to requests of a verb, kind and name, where these
are given, after `skip` of them and for `times` of them. -/
structure ServerFault where
  verb : Option String := none
  kind : Option String := none
  name : Option String := none
  skip : Nat := 0
  times : Nat := 1
  response : Response
deriving DecidableEq, Inhabited

/-- A server with its objects, and the faults it has been told to show. -/
structure Server where
  objects : ObjectTable := []
  faults : List ServerFault := []
deriving DecidableEq, Inhabited

/-- The answer that describes a failure. -/
def Response.failing (code : Nat) (reason message : String) : Response where
  code := code
  content := .value <| Json.record
    [("kind", some (.string "Status")), ("status", some (.string "Failure")),
     ("message", some (.string message)), ("reason", some (.string reason)),
     ("code", some (.ofInt code))]

/-- The answer with an object. -/
def Response.holding (code : Nat) (object : Json) : Response := ⟨code, .value object⟩

namespace ServerFault

/-- Whether a request is one of those that a fault is about. -/
def matchesRequest (f : ServerFault) (r : Request) : Bool :=
  f.verb.all (· == r.verb.label) && f.kind.all (· == r.type.kind) && f.name.all (· == r.name)

/-- Offers a request to faults in order: what is left of them, and the answer of the first that
takes it. -/
def offer (r : Request) : List ServerFault → List ServerFault × Option Response
  | [] => ([], none)
  | f :: rest =>
    if f.matchesRequest r && f.skip == 0 && f.times != 0 then
      ({ f with times := f.times - 1 } :: rest, some f.response)
    else
      let f := if f.matchesRequest r then { f with skip := f.skip - 1 } else f
      let (rest, answer) := offer r rest
      (f :: rest, answer)

end ServerFault

/-! ### Objects -/

namespace Json

/-- Where the resource version of an object is. -/
def resourceVersionPath : List String := ["metadata", "resourceVersion"]

/-- The resource version of an object. -/
def resourceVersion? (object : Json) : Option String :=
  (object.at? resourceVersionPath).bind string?

/-- The resource version that follows that of an object, or starts a new one. -/
def nextResourceVersion (old : Option Json) : String :=
  toString (((old.bind resourceVersion?).bind index?).getD 0 + 1)

/-- An object with the resource version that follows that of the one before it. -/
def stamped (object : Json) (old : Option Json) : Json :=
  object.setAt resourceVersionPath (.string (nextResourceVersion old))

/-- The generation of an object, zero if it has none that fits 64 bits. -/
def generation (object : Json) : Int :=
  (((object.at? ["metadata", "generation"]).bind integer?).filter
    fun i => -0x8000000000000000 ≤ i ∧ i ≤ 0x7fffffffffffffff).getD 0

/-- An object as it is applied over an old one. -/
def appliedOver (object : Json) : Option Json → Json
  | none => object.setAt ["metadata", "generation"] (.ofInt 1)
  | some old =>
    let object :=
      match old.get? "status" with
      | some status => object.set "status" status
      | none => object
    let changed := object.get? "spec" ≠ old.get? "spec"
    object.setAt ["metadata", "generation"]
      (.ofInt (old.generation + if changed then 1 else 0))

/-- Whether an object has been deleted and nothing holds it any more. -/
def isReleased (object : Json) : Bool :=
  let deleted :=
    match object.at? ["metadata", "deletionTimestamp"] with
    | none | some .null => false
    | some _ => true
  let held := ((object.at? ["metadata", "finalizers"]).bind array?).getD []
  deleted && held.isEmpty

end Json

namespace Server

/-- The key of the object that a request is about. -/
def key (r : Request) : ObjectKey := ⟨r.type.kind, r.namespace, r.name⟩

/-- Stores an object in place of an old one; gives it as stored. -/
def store (s : Server) (key : ObjectKey) (object : Json) : Server × Json :=
  let object := object.stamped (s.objects.find? key)
  ({ s with objects := s.objects.put key object }, object)

/-- Stores an object and answers with it. -/
def accept (s : Server) (code : Nat) (key : ObjectKey) (object : Json) : Server × Response :=
  let (s, object) := s.store key object
  (s, .holding code object)

/-- The answer that there is no object of a name. -/
def absent (name : String) : Response := .failing 404 "NotFound" (name ++ " not found")

/-- Creates an object, unless there is one. -/
def create (s : Server) (r : Request) (body : Json) : Server × Response :=
  match s.objects.find? (key r) with
  | some _ => (s, .failing 409 "AlreadyExists" (r.name ++ " already exists"))
  | none => s.accept 201 (key r) body

/-- Replaces an object, unless it is not the one that was read. -/
def replace (s : Server) (r : Request) (body : Json) : Server × Response :=
  match s.objects.find? (key r) with
  | none => (s, absent r.name)
  | some old =>
    if body.resourceVersion?.any fun v => old.resourceVersion? ≠ some v then
      (s, .failing 409 "Conflict" (r.name ++ " has been modified"))
    else s.accept 200 (key r) body

/-- Merges a patch into an object; of a patch of the status only that counts, and a patch without
one takes it away. -/
def merge (s : Server) (r : Request) (body : Json) : Server × Response :=
  match s.objects.find? (key r) with
  | none => (s, absent r.name)
  | some old =>
    let patch :=
      if r.part = some Request.statusPart then
        Json.record [("status", some ((body.get? "status").getD .null))]
      else body
    s.accept 200 (key r) (patch.merge old)

/-- Changes an object by the operations of a patch. A deleted object that nothing holds any more
goes away. -/
def patch (s : Server) (r : Request) (operations : List PatchOperation) : Server × Response :=
  match s.objects.find? (key r) with
  | none => (s, absent r.name)
  | some old =>
    match operations.foldlM PatchOperation.apply? old with
    | none => (s, .failing 422 "Invalid" "the patch does not fit")
    | some object =>
      let (s, response) := s.accept 200 (key r) object
      if object.isReleased then ({ s with objects := s.objects.erase (key r) }, response)
      else (s, response)

/-- The answer to a request about an event: what was sent, whatever was to be done with it. -/
def echo (r : Request) : Response := .holding 201 (r.payload.body?.getD .null)

/-- What the server does with a request about an object that it keeps. -/
def serveStored (s : Server) (r : Request) : Server × Response :=
  match r.verb, r.payload with
  | .create, .value body => s.create r body
  | .replace, .value body => s.replace r body
  | .apply, .value body =>
    s.accept 200 (key r) (body.appliedOver (s.objects.find? (key r)))
  | .merge, .value body => s.merge r body
  | .json, .patch operations => s.patch r operations
  | .get, _ =>
    match s.objects.find? (key r) with
    | some object => (s, .holding 200 object)
    | none => (s, absent r.name)
  | _, _ => (s, .failing 400 "BadRequest" "the body does not fit the request")

/-- What the server does with a request that meets no fault. -/
def serve (s : Server) (r : Request) : Server × Response :=
  if r.type.kind = "Event" then (s, echo r) else s.serveStored r

/-- What the server does with a request. -/
def handle (s : Server) (r : Request) : Server × Response :=
  let (faults, answer) := ServerFault.offer r s.faults
  let s := { s with faults := faults }
  match answer with
  | some response => (s, response)
  | none => s.serve r

/-! ### Direct access -/

/-- The key of an object of a kind. -/
def keyOf (kind : String) (object : Json) : ObjectKey :=
  let part (name : String) : String :=
    ((object.at? ["metadata", name]).bind Json.string?).getD ""
  ⟨kind, part "namespace", part "name"⟩

/-- Stores an object as it is. -/
def put (s : Server) (kind : String) (object : Json) : Server × Json :=
  s.store (keyOf kind object) object

/-- Merges a patch into a stored object, if there is one. -/
def edit (s : Server) (key : ObjectKey) (patch : Json) : Option (Server × Json) :=
  (s.objects.find? key).map fun old => s.store key (patch.merge old)

/-- Deletes an object. -/
def delete (s : Server) (key : ObjectKey) : Server :=
  { s with objects := s.objects.erase key }

end Server

end ReplicaSetOperator

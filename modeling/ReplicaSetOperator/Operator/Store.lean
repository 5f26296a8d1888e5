import ReplicaSetOperator.Api.Client
import ReplicaSetOperator.Object.Secret

/-!
# Reading and writing objects

Objects that are read by name, created and updated. An object that does not exist reads as
nothing; what it is called is taken from its metadata when it is written.
-/

namespace ReplicaSetOperator

/-- A type of objects that have a name and a namespace of their own. -/
structure Storable (α : Type) extends Resource α where
  metadata : α → ObjectMeta

/-- Secrets as objects of the store. -/
def Secret.stored : Storable Secret :=
  ⟨⟨Secret.objectType, Secret.format, Secret.reread⟩, Secret.metadata⟩

/-- Config maps as objects of the store. -/
def ConfigMap.stored : Storable ConfigMap :=
  ⟨⟨ConfigMap.objectType, ConfigMap.format, ConfigMap.reread⟩, ConfigMap.metadata⟩

namespace Store

variable {α : Type}

/-- The namespace and the name of an object. -/
def key (m : ObjectMeta) : Except StoreError (String × String) :=
  match m.namespace, m.name with
  | none, _ => .error (.invalidObject "metadata.namespace")
  | _, none => .error (.invalidObject "metadata.name")
  | some ns, some name => .ok (ns, name)

/-- The object of a name, if there is one. -/
def get? (t : Storable α) («namespace» name : String) : Program StoreError (Option α) :=
  (Client.get? t.toResource «namespace» name).mapFailure .client

/-- What a refused creation comes to. -/
def createError (kind «namespace» name : String) : ClientError → StoreError
  | .refused code reason =>
    if code = 409 then .alreadyExists kind «namespace» name else .client (.refused code reason)
  | e => .client e

/-- What a refused update comes to. -/
def updateError (kind «namespace» name : String) : ClientError → StoreError
  | .refused code reason =>
    if code = 409 then .conflict kind «namespace» name
    else if code = 404 then .notFound kind «namespace» name
    else .client (.refused code reason)
  | e => .client e

/-- Creates an object. -/
def create (t : Storable α) (object : α) : Program StoreError α := do
  let (ns, name) ← .ofExcept (key (t.metadata object))
  (Client.create t.toResource ns name object).mapFailure (createError t.type.kind ns name)

/-- Puts an object in the place of the one with its name. -/
def update (t : Storable α) (object : α) : Program StoreError α := do
  let (ns, name) ← .ofExcept (key (t.metadata object))
  (Client.replace t.toResource ns name object).mapFailure (updateError t.type.kind ns name)

end Store

end ReplicaSetOperator

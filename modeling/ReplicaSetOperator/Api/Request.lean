import ReplicaSetOperator.Api.Address
import ReplicaSetOperator.Json.Basic

/-!
# Requests and responses

What is sent to the server of the API and what it answers. A request that has no address is not
made. `Request.about?_eq` and `Request.creating?_eq` say that one about an object of a plain name
arrives as it is meant.
-/

namespace ReplicaSetOperator

/-- What a request does. -/
inductive Verb where
  | get
  | create
  | replace
  | apply
  | merge
  | json
deriving DecidableEq, Inhabited

/-- The name of what a request does. -/
def Verb.label : Verb → String
  | .get => "get"
  | .create => "create"
  | .replace => "replace"
  | .apply => "apply"
  | .merge => "merge"
  | .json => "json"

/-- One operation of a patch on a value, at the end of a path. -/
inductive PatchOperation where
  | test (path : List String) (value : Json)
  | add (path : List String) (value : Json)
  | remove (path : List String)
deriving DecidableEq, Inhabited

namespace PatchOperation

/-- The text of a path. -/
def pointer (path : List String) : String :=
  String.join (path.map ("/" ++ ·))

/-- What an operation is sent as. -/
def toJson : PatchOperation → Json
  | .test path value =>
    Json.record
      [("op", some (.string "test")), ("path", some (.string (pointer path))),
       ("value", some value)]
  | .add path value =>
    Json.record
      [("op", some (.string "add")), ("path", some (.string (pointer path))),
       ("value", some value)]
  | .remove path =>
    Json.record [("op", some (.string "remove")), ("path", some (.string (pointer path)))]

end PatchOperation

/-- What a request carries. -/
inductive Payload where
  | none
  | value (body : Json)
  | patch (operations : List PatchOperation)
deriving DecidableEq, Inhabited

namespace Payload

/-- What is sent as the body of a request. -/
def body? : Payload → Option Json
  | .none => Option.none
  | .value body => some body
  | .patch operations => some (.array (operations.map PatchOperation.toJson))

/-- The name that a body has for its object, empty if it has none. -/
def name : Payload → String
  | .value body => ((body.at? ["metadata", "name"]).bind Json.string?).getD ""
  | _ => ""

end Payload

/-- A request about one object, or about a part of it only, where it arrives. -/
structure Request where
  verb : Verb
  type : ObjectType
  «namespace» : String
  name : String
  part : Option String := none
  query : Option String := none
  payload : Payload := .none
deriving DecidableEq, Inhabited

/-- The manager whose claim on fields an application asserts. -/
def fieldManager : String := "mongodb-cluster-controller"

/-- The parameters of a request: an application is forced, and names the manager of its fields. -/
def Verb.query : Verb → Option String
  | .apply => some ("force=true&fieldManager=" ++ fieldManager)
  | _ => none

/-- What ends the address of a request. -/
def Verb.tail : Verb → String
  | .get => ""
  | .apply => "?&" ++ Verb.apply.query.getD ""
  | _ => "?"

namespace Request

/-- The part of an object that is its status. -/
def statusPart : String := "status"

/-- What follows the name in the address of a request about an object, or about its status only. -/
def tail (verb : Verb) (statusOnly : Bool) : String :=
  (if statusOnly then "/" ++ statusPart else "") ++ verb.tail

/-- The request that arrives at an address, about objects of the kind that is found there. Where
the address has no name, the one that the body has counts. -/
def arriving (verb : Verb) (type : ObjectType) (a : Address) (named : String)
    (payload : Payload) : Request where
  verb := verb
  type := { type with kind := Address.kindIn a.collection }
  «namespace» := a.namespace
  name := a.name.getD named
  part := a.part
  query := a.query
  payload := payload

/-- The request about an object of a name, or about its status only, if it has an address. An
object without a name has none. -/
def about? (verb : Verb) (type : ObjectType) («namespace» name : String) (payload : Payload)
    (statusOnly : Bool) : Option Request :=
  if name.isEmpty then none
  else
    (Address.ofText? type (type.place «namespace» ++ "/" ++ name ++ tail verb statusOnly)).map
      fun a => arriving verb type a payload.name payload

/-- The request to create an object, if the collection has an address. The name is in the body. -/
def creating? (type : ObjectType) («namespace» name : String) (body : Json) : Option Request :=
  (Address.ofText? type (type.place «namespace» ++ Verb.create.tail)).map
    fun a => arriving .create type a name (.value body)

/-- Whether objects of a name arrive as they are meant, whatever part of them a request is about:
kind, namespace and name are plain, and there is room for any tail. -/
structure Addressable (type : ObjectType) («namespace» name : String) : Prop where
  known : Address.kindIn type.collection = type.kind
  plainCollection : Address.isPlain type.collection = true
  plainNamespace : Address.isPlain «namespace» = true
  plainName : Address.isPlain name = true
  named : name ≠ ""
  room : Address.hasRoom type
    ((type.place «namespace» ++ "/" ++ name).utf8ByteSize + 100) = true

instance (type : ObjectType) («namespace» name : String) :
    Decidable (Addressable type «namespace» name) :=
  decidable_of_iff
    (Address.kindIn type.collection = type.kind ∧ Address.isPlain type.collection = true ∧
      Address.isPlain «namespace» = true ∧ Address.isPlain name = true ∧ name ≠ "" ∧
      Address.hasRoom type ((type.place «namespace» ++ "/" ++ name).utf8ByteSize + 100) = true)
    ⟨fun ⟨a, b, c, d, e, f⟩ => ⟨a, b, c, d, e, f⟩, fun ⟨a, b, c, d, e, f⟩ => ⟨a, b, c, d, e, f⟩⟩

/-- The parameters as they stand in an address. -/
def parameters (verb : Verb) : List Char :=
  if verb = .apply then '&' :: (verb.query.getD "").toList else []

/-- What ends an address is not a part of its path. -/
theorem readPath_tail (verb : Verb) :
    Address.readPath verb.tail.toList = some ([], parameters verb) := by
  cases verb <;> decide

/-- The parameters of a request arrive as they are. -/
theorem query?_parameters (verb : Verb) :
    Address.query? (parameters verb) = verb.query := by
  cases verb <;> decide

/-- A request about an object of a plain name is about that object. -/
theorem about?_eq {type : ObjectType} {«namespace» name : String} (verb : Verb)
    (payload : Payload) (statusOnly : Bool) (plain : Addressable type «namespace» name) :
    about? verb type «namespace» name payload statusOnly =
      some
        { verb := verb, type := type, «namespace» := «namespace», name := name,
          part := if statusOnly then some statusPart else none, query := verb.query,
          payload := payload } := by
  have short : (tail verb statusOnly).utf8ByteSize ≤ 100 := by
    cases verb <;> cases statusOnly <;> decide
  have room : Address.hasRoom type
      (type.place «namespace» ++ "/" ++ name ++ tail verb statusOnly).utf8ByteSize = true := by
    refine Address.hasRoom_of_le ?_ plain.room
    rw [String.utf8ByteSize_append]
    omega
  have status : Address.isPlain statusPart = true := by decide
  rw [about?, if_neg (by simpa using plain.named)]
  cases statusOnly with
  | false =>
    have steps : ∀ step ∈ [«namespace», type.collection, name], Address.isPlain step = true := by
      simpa using ⟨plain.plainNamespace, plain.plainCollection, plain.plainName⟩
    rw [Address.ofText?_eq _ room steps (by simp)
      (by simp [tail, ObjectType.place, Address.pathOf, List.intercalate]) (readPath_tail verb)]
    simp [arriving, plain.known, query?_parameters]
  | true =>
    have steps : ∀ step ∈ [«namespace», type.collection, name, statusPart],
        Address.isPlain step = true := by
      simpa using ⟨plain.plainNamespace, plain.plainCollection, plain.plainName, status⟩
    rw [Address.ofText?_eq _ room steps (by simp)
      (by simp [tail, ObjectType.place, Address.pathOf, List.intercalate]) (readPath_tail verb)]
    simp [arriving, plain.known, query?_parameters]

/-- A request to create an object of a plain name is about that object. -/
theorem creating?_eq {type : ObjectType} {«namespace» name : String} (body : Json)
    (plain : Addressable type «namespace» name) :
    creating? type «namespace» name body =
      some
        { verb := .create, type := type, «namespace» := «namespace», name := name,
          payload := .value body } := by
  have room : Address.hasRoom type
      (type.place «namespace» ++ Verb.create.tail).utf8ByteSize = true := by
    refine Address.hasRoom_of_le ?_ plain.room
    have short : Verb.create.tail.utf8ByteSize = 1 := rfl
    simp only [String.utf8ByteSize_append]
    omega
  have steps : ∀ step ∈ [«namespace», type.collection], Address.isPlain step = true := by
    simpa using ⟨plain.plainNamespace, plain.plainCollection⟩
  rw [creating?, Address.ofText?_eq _ room steps (by simp)
    (by simp [ObjectType.place, Address.pathOf, List.intercalate]) (readPath_tail .create)]
  simp [arriving, plain.known, query?_parameters, Verb.query]

end Request

/-- What a response carries: a value, or a text that should be one. -/
inductive Content where
  | value (body : Json)
  | text (text : String)
deriving DecidableEq, Inhabited

/-- An answer of the server. -/
structure Response where
  code : Nat
  content : Content
deriving DecidableEq, Inhabited

end ReplicaSetOperator

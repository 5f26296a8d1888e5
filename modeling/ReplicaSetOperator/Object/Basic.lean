import ReplicaSetOperator.Object.Metadata

/-!
# Objects

What all objects of the API have in common: the version of their interface and their kind. Both
are written always. An object that is read may lack them, but they must not be others.
-/

namespace ReplicaSetOperator

/-- A type of objects, with the version of the interface that holds it. -/
structure ObjectType where
  apiVersion : String
  kind : String
deriving DecidableEq, Inhabited

namespace ObjectType

/-- The rules of the members that name the type. -/
def rules (t : ObjectType) : List LenientRule :=
  [⟨"apiVersion", .fixed, (Format.constant t.apiVersion).fault⟩,
   ⟨"kind", .fixed, (Format.constant t.kind).fault⟩]

/-- The members that name the type. -/
def members (t : ObjectType) : List (String × Option Json) :=
  [("apiVersion", some (.string t.apiVersion)), ("kind", some (.string t.kind))]

end ObjectType

/-- Objects of a given type, carried along as a whole. -/
def Passive.object (t : ObjectType) (fields : List PassiveField) : Passive where
  fault := Lenient.fault (t.rules ++ rules fields)
  normal j := Json.recordWith t.members (collect fields j)
  blank := Json.recordWith t.members (collect fields .null)

end ReplicaSetOperator

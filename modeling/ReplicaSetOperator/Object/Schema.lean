import ReplicaSetOperator.Json.Basic

/-!
# Schemas

A `Schema` says what the values of a part of a custom object look like: the type with its bounds,
and notes that do not restrict it. `Schema.toJson` is the form in which a definition of custom
objects carries it.
-/

namespace ReplicaSetOperator

/-- What is said about a value beside its type. A nullable value may also be null. -/
structure SchemaNotes where
  title : Option String := none
  description : Option String := none
  default : Option Json := none
  nullable : Bool := false
deriving DecidableEq, Inhabited

/-- How wide an integer may be. -/
inductive IntegerWidth where
  | int32
  | int64
deriving DecidableEq, Inhabited

/-- The name of a width. -/
def IntegerWidth.label : IntegerWidth → String
  | .int32 => "int32"
  | .int64 => "int64"

/-- What values look like. -/
inductive Schema where
  | text (notes : SchemaNotes)
  | dateTime (notes : SchemaNotes)
  | boolean (notes : SchemaNotes)
  | integer (notes : SchemaNotes) (width : IntegerWidth)
  /-- A list of which no two items agree in all the members that are keys. -/
  | keyedList (notes : SchemaNotes) (keys : List String) (items : Schema)
  | object (notes : SchemaNotes) (properties : List (String × Schema)) (required : List String)
deriving Inhabited

/-- The members that hold notes. -/
def SchemaNotes.members (n : SchemaNotes) : List (String × Option Json) :=
  [("title", n.title.map .string), ("description", n.description.map .string),
   ("default", n.default), ("nullable", if n.nullable then some (.bool true) else none)]

/-- The list of some texts. -/
def Json.ofTexts (texts : List String) : Json := .array (texts.map .string)

namespace Schema

/-- The member that names a type. -/
def typed (name : String) : String × Option Json := ("type", some (.string name))

/-- The member that names a format. -/
def formatted (name : String) : String × Option Json := ("format", some (.string name))

mutual

/-- The form of a schema in a definition. -/
def toJson : Schema → Json
  | .text n => Json.record (typed "string" :: n.members)
  | .dateTime n => Json.record (typed "string" :: formatted "date-time" :: n.members)
  | .boolean n => Json.record (typed "boolean" :: n.members)
  | .integer n width => Json.record (typed "integer" :: formatted width.label :: n.members)
  | .keyedList n keys items =>
    Json.record <|
      [typed "array", ("items", some (toJson items)),
       ("x-kubernetes-list-map-keys", some (Json.ofTexts keys)),
       ("x-kubernetes-list-type", some (.string "map"))] ++ n.members
  | .object n properties required =>
    Json.record <|
      [typed "object", ("properties", some (.object (Json.sortMembers (toMembers properties)))),
       ("required", if required.isEmpty then none else some (Json.ofTexts required))] ++ n.members

/-- The forms of the properties of an object. -/
def toMembers : List (String × Schema) → Json.Members
  | [] => []
  | (name, s) :: rest => (name, toJson s) :: toMembers rest

end

end Schema

end ReplicaSetOperator

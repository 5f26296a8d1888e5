import ReplicaSetOperator.Json.Reader

/-!
# Values read back from their texts

A value that is written and read again comes back as it was, but for its doubles: reading rounds
in several steps (`Literal.scale`), so that the shortest text of a double may be read as one of its
neighbours. `Json.reread` says what comes back.
-/

namespace ReplicaSetOperator

/-- The number that the text of a number is read as. -/
def Number.reread (n : Number) : Number :=
  match (Json.read n.text).1 with
  | .number m => m
  | _ => n

namespace Json

mutual

/-- The value that the text of a value is read as. -/
def reread : Json → Json
  | .number n => .number n.reread
  | .array items => .array (rereadItems items)
  | .object ms => .object (rereadMembers ms)
  | j => j

/-- The values that the texts of values are read as. -/
def rereadItems : List Json → List Json
  | [] => []
  | j :: rest => reread j :: rereadItems rest

/-- Members with the values that the texts of theirs are read as. -/
def rereadMembers : Members → Members
  | [] => []
  | (key, j) :: rest => (key, reread j) :: rereadMembers rest

end

end Json

end ReplicaSetOperator

import ReplicaSetOperator.Json.Basic
import ReplicaSetOperator.Number.Shortest

/-!
# Formats

A `Format α` says how values of a type stand in JSON: what is wrong with a given value, the value
that one without fault stands for, and the value that is written. The fault is the first one in
document order; that members are missing shows only at the end of their object.

`Record` holds the rules of strict records: members of other names are passed over, no member may
be there twice, and the members may also be given as an array in the order of declaration.
`Enumeration` holds the rules of a choice of names.
-/

namespace ReplicaSetOperator

/-- Whether a value is decoded while its text is being read, or after it has been read whole. The
two differ in what a misshapen choice or a surplus item counts as. -/
inductive Source where
  | text
  | value
deriving DecidableEq

/-- What a value of a shape that the reader cannot enter counts as. -/
def Source.misshapen : Source → DecodeError
  | .text => .malformed
  | .value => .mismatch

/-- How values of a type stand in JSON. -/
structure Format (α : Type) where
  fault : Source → Json → Option DecodeError
  read : Json → α
  write : α → Json

/-- The error of a value that is not what was expected. -/
def Json.misfit : Json → DecodeError
  | .broken flaw => flaw.error
  | _ => .mismatch

namespace Format

variable {α : Type}

/-- The value that a JSON value stands for, or what is wrong with it. -/
def decode (f : Format α) (source : Source) (j : Json) : Except DecodeError α :=
  match f.fault source j with
  | some e => .error e
  | none => .ok (f.read j)

/-- The format of texts. -/
def string : Format String where
  fault _ j := if j.string?.isSome then none else some j.misfit
  read j := j.string?.getD ""
  write := .string

/-- The format of truth values. -/
def bool : Format Bool where
  fault _ j := if j.bool?.isSome then none else some j.misfit
  read j := j.bool?.getD false
  write := .bool

/-- The fault of a value that has to be an integer between two bounds. -/
def integerFault (low high : Int) (j : Json) : Option DecodeError :=
  match j.integer? with
  | some i => if low ≤ i ∧ i ≤ high then none else some .mismatch
  | none => some j.misfit

/-- The format of 32-bit integers. -/
def int32 : Format Int32 where
  fault _ j := integerFault (-0x80000000) 0x7fffffff j
  read j := Int32.ofInt (j.integer?.getD 0)
  write i := .ofInt i.toInt

/-- The format of 64-bit integers. -/
def int64 : Format Int64 where
  fault _ j := integerFault (-0x8000000000000000) 0x7fffffffffffffff j
  read j := Int64.ofInt (j.integer?.getD 0)
  write i := .ofInt i.toInt

/-- The format of 64-bit natural numbers. -/
def uint64 : Format UInt64 where
  fault _ j := integerFault 0 0xffffffffffffffff j
  read j := UInt64.ofNat (j.integer?.getD 0).toNat
  write i := .ofInt i.toNat

/-- The format of 32-bit binary fractions; what is not one is written as null. -/
def single : Format Binary where
  fault _ j :=
    match j with
    | .number _ => none
    | j => some j.misfit
  read
    | .number (.integer i) => BinaryFormat.single.ofInt i
    | .number (.real x) => BinaryFormat.single.convert x
    | .number (.single x) => x
    | _ => .zero false
  write
    | .finite negative mantissa exponent => .number (.single (.finite negative mantissa exponent))
    | _ => .null

/-- Null stands for nothing. -/
def option (f : Format α) : Format (Option α) where
  fault source j := if j = .null then none else f.fault source j
  read j := if j = .null then none else some (f.read j)
  write
    | some a => f.write a
    | none => .null

/-- The format of lists. -/
def list (f : Format α) : Format (List α) where
  fault source
    | .array items => items.findSome? (f.fault source)
    | j => some j.misfit
  read j := (j.array?.getD []).map f.read
  write xs := .array (xs.map f.write)

end Format

/-! ### Choices -/

namespace Enumeration

/-- The fault of a choice of names: one of them as a text, or as the only member of an object,
with the value null. -/
def fault (names : List String) (source : Source) : Json → Option DecodeError
  | .string s => if s ∈ names then none else some (.unknownVariant s names)
  | .object [] => some source.misshapen
  | .object [(s, v)] => variantFault s v
  | .object ((s, v) :: (_, w) :: _) =>
    match source with
    | .value => some .mismatch
    | .text =>
      (variantFault s v).or <|
        match w with
        | .broken (.unread .next e) => some e
        | _ => some .malformed
  | .broken (.unread .word _) | .broken (.unread .number _) => some source.misshapen
  | .broken flaw => some flaw.error
  | _ => some source.misshapen
where
  /-- The fault of a name with its value. -/
  variantFault (s : String) : Json → Option DecodeError
    | .broken (.unread .name e) => some e
    | .broken .oddName | .broken .tooDeep => some .malformed
    | v =>
      if s ∈ names then if v = .null then none else some v.misfit
      else some (.unknownVariant s names)

/-- The name that a choice gives. -/
def name : Json → String
  | .string s => s
  | .object ((s, _) :: _) => s
  | _ => ""

/-- The format of a choice, by the name of each alternative. -/
def format {α : Type} [BEq α] [Inhabited α] (table : List (String × α)) : Format α where
  fault := fault (table.map Prod.fst)
  read j := (table.lookup (name j)).getD default
  write a := .string (((table.find? fun p => p.2 == a).map Prod.fst).getD "")

end Enumeration

/-! ### Strict records -/

/-- What the absence of a member means: an error, a default, or nothing. -/
inductive Presence where
  | required
  | defaulted
  | optional
deriving DecidableEq

/-- The rule of one member of a record. -/
structure FieldRule where
  name : String
  presence : Presence
  fault : Source → Json → Option DecodeError

/-- The rule of a member with a given format. -/
def Format.rule {α : Type} (f : Format α) (name : String) (presence : Presence := .required) :
    FieldRule :=
  ⟨name, presence, f.fault⟩

namespace Record

/-- The first fault of members in document order, or the names of the known ones. -/
def walk (rules : List FieldRule) (source : Source) :
    List String → Json.Members → Except DecodeError (List String)
  | seen, [] => .ok seen
  | seen, (key, v) :: rest =>
    match rules.find? fun r => r.name == key with
    | none =>
      match v.passed with
      | some e => .error e
      | none => walk rules source seen rest
    | some r =>
      if key ∈ seen then .error (.repeatedField key)
      else
        match r.fault source v with
        | some e => .error e
        | none => walk rules source (key :: seen) rest

/-- The first required member, in the order of declaration, that has not been seen. -/
def missing (rules : List FieldRule) (seen : List String) : Option DecodeError :=
  (rules.find? fun r => r.presence = .required ∧ r.name ∉ seen).map fun r => .missingField r.name

/-- The first fault of a record given as an array. -/
def faultItems (source : Source) : List FieldRule → List Json → Option DecodeError
  | [], [] => none
  | [], .broken (.unread .next e) :: _ => some e
  | [], _ :: _ => some source.misshapen
  | r :: rules, [] =>
    if r.presence = .defaulted then faultItems source rules [] else some .mismatch
  | r :: rules, j :: items => (r.fault source j).or (faultItems source rules items)

/-- The first fault of a record. -/
def fault (rules : List FieldRule) (source : Source) : Json → Option DecodeError
  | .object ms =>
    match walk rules source [] ms with
    | .error e => some e
    | .ok seen => missing rules seen
  | .array items => faultItems source rules items
  | j => some j.misfit

/-- The value of a member of a record, which may be given as an array. -/
def field? (names : List String) (name : String) : Json → Option Json
  | .object ms => Json.find? name ms
  | .array items => items[names.idxOf name]?
  | _ => none

/-- The members that are there, in the given order. -/
def ordered (members : List (String × Option Json)) : Json :=
  .object (members.filterMap fun m => m.2.map (m.1, ·))

end Record

/-- The value of a member of a record, or a default where it is absent. -/
def Format.readField {α : Type} (f : Format α) (names : List String) (name : String) (absent : α)
    (j : Json) : α :=
  ((Record.field? names name j).map f.read).getD absent

end ReplicaSetOperator

import ReplicaSetOperator.Json.Format
import ReplicaSetOperator.Text.Base64
import ReplicaSetOperator.Text.Timestamp

/-!
# Lenient records

The records of Kubernetes objects: every member may be absent or null, members of other names are
passed over, and a record is never given as an array. Two kinds of members are stricter: the kind
and version of an object may be absent but not null, and a time that has no default has to be
there.

A `Passive` format keeps a part of an object that nothing here looks into: it is checked, members
of other names and nulls are dropped, and members that the format requires are written always.
-/

namespace ReplicaSetOperator

/-- Whether a member may be null, and whether it may be absent. -/
inductive Need where
  | optional
  | fixed
  | strict
deriving DecidableEq

/-- The rule of one member of a lenient record. -/
structure LenientRule where
  name : String
  need : Need
  fault : Source → Json → Option DecodeError

/-- The rule of a member that may be absent or null. -/
def Format.lenient {α : Type} (f : Format α) (name : String) : LenientRule :=
  ⟨name, .optional, f.fault⟩

namespace Lenient

/-- The first fault of a member in document order. -/
def memberFault (rules : List LenientRule) (source : Source) (m : String × Json) :
    Option DecodeError :=
  match rules.find? fun r => r.name == m.1 with
  | none => m.2.passed
  | some r => if m.2 = .null ∧ r.need = .optional then none else r.fault source m.2

/-- The first fault of a record. -/
def fault (rules : List LenientRule) (source : Source) : Json → Option DecodeError
  | .object ms =>
    (ms.findSome? (memberFault rules source)).or <|
      (rules.find? fun r => r.need = .strict ∧ (Json.find? r.name ms).isNone).map fun r =>
        .missingField r.name
  | j => some j.misfit

/-- The value of a member that is there and not null. -/
def present? (name : String) (j : Json) : Option Json :=
  match j.get? name with
  | some .null => none
  | v => v

end Lenient

namespace Format

variable {α : Type}

/-- The value of a member, if it is there and not null. -/
def present? (f : Format α) (name : String) (j : Json) : Option α :=
  (Lenient.present? name j).map f.read

/-- The value of a member, or a default where it is absent or null. -/
def presentD (f : Format α) (name : String) (absent : α) (j : Json) : α :=
  (f.present? name j).getD absent

/-- The format of a text that has to be a given one. -/
def constant (text : String) : Format Unit where
  fault _ j :=
    match j with
    | .string s => if s = text then none else some .mismatch
    | j => some j.misfit
  read _ := ()
  write _ := .string text

/-- The format of octets: base 64, or null for none. -/
def bytes : Format Bytes where
  fault _
    | .null => none
    | .string s => if (Base64.decode? s.toList).isSome then none else some .mismatch
    | j => some j.misfit
  read j := ((j.string?.bind fun s => Base64.decode? s.toList)).getD []
  write b := .string (String.ofList (Base64.encode b))

/-- The format of times. -/
def time : Format Timestamp where
  fault _
    | .string s => if (Timestamp.parse? s.toList).isSome then none else some .mismatch
    | j => some j.misfit
  read j := (j.string?.bind fun s => Timestamp.parse? s.toList).getD default
  write t := .string (String.ofList t.text)

/-- The format of maps from texts, in ascending order. -/
def dictionary (f : Format α) : Format (List (String × α)) where
  fault source
    | .object ms => ms.findSome? fun m => f.fault source m.2
    | j => some j.misfit
  read j := j.members.map fun m => (m.1, f.read m.2)
  write xs := .object (xs.map fun m => (m.1, f.write m.2))

end Format

/-! ### Passive parts -/

/-- The format of a part that is carried along: what is wrong with it, its normal form, and what
is written where it is required and absent. -/
structure Passive where
  fault : Source → Json → Option DecodeError
  normal : Json → Json
  blank : Json

/-- A member of a passive record. -/
structure PassiveField where
  name : String
  required : Bool
  part : Passive

namespace Passive

/-- The passive form of a format. -/
def ofFormat {α : Type} (f : Format α) (blank : α) : Passive :=
  ⟨f.fault, fun j => f.write (f.read j), f.write blank⟩

/-- Texts. -/
def text : Passive := ofFormat Format.string ""

/-- Truth values. -/
def bool : Passive := ofFormat Format.bool false

/-- 32-bit integers. -/
def int32 : Passive := ofFormat Format.int32 0

/-- 64-bit integers. -/
def int64 : Passive := ofFormat Format.int64 0

/-- Times. -/
def time : Passive := ofFormat Format.time default

/-- A number of 32 bits or a text. -/
def intOrText : Passive where
  fault
    | _, .string _ => none
    | source, j => Format.int32.fault source j
  normal j := j
  blank := .ofInt 0

/-- Any value. -/
def any : Passive := ⟨fun _ j => j.firstBroken true, fun j => j, .null⟩

/-- Lists. -/
def list (p : Passive) : Passive where
  fault source
    | .array items => items.findSome? (p.fault source)
    | j => some j.misfit
  normal j := .array ((j.array?.getD []).map p.normal)
  blank := .array []

/-- Maps from texts. -/
def dictionary (p : Passive) : Passive where
  fault source
    | .object ms => ms.findSome? fun m => p.fault source m.2
    | j => some j.misfit
  normal j := .object (j.members.map fun m => (m.1, p.normal m.2))
  blank := .object []

/-- The rules of the members of a record. -/
def rules (fields : List PassiveField) : List LenientRule :=
  fields.map fun f => ⟨f.name, .optional, f.part.fault⟩

/-- The members of a record that are carried along, in normal form and ascending order. -/
def collect (fields : List PassiveField) (j : Json) : Json.Members :=
  Json.sortMembers <| fields.filterMap fun f =>
    match Lenient.present? f.name j with
    | some v => some (f.name, f.part.normal v)
    | none => if f.required then some (f.name, f.part.blank) else none

/-- Records. -/
def record (fields : List PassiveField) : Passive where
  fault := Lenient.fault (rules fields)
  normal j := .object (collect fields j)
  blank := .object (collect fields .null)

/-- A member that may be absent. -/
def field (part : Passive) (name : String) : PassiveField := ⟨name, false, part⟩

/-- Members that may be absent. -/
def fields (part : Passive) (names : List String) : List PassiveField := names.map part.field

/-- A member that is written always. -/
def needed (part : Passive) (name : String) : PassiveField := ⟨name, true, part⟩

/-- Members that are written always. -/
def neededs (part : Passive) (names : List String) : List PassiveField := names.map part.needed

end Passive

/-- Writes the members of a record that are looked into together with those that are carried
along. -/
def Json.recordWith (members : List (String × Option Json)) (other : Json.Members) : Json :=
  .object (sortMembers (members.filterMap (fun m => m.2.map (m.1, ·)) ++ other))

end ReplicaSetOperator

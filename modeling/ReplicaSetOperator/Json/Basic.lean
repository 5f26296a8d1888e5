import ReplicaSetOperator.Number.Binary

/-!
# JSON values

`Json` is a value as it stands in a text: the members of an object keep their order. Where a
text stops being readable, the value read so far holds `Json.broken` at that place. Whoever walks
a value in document order therefore meets the first problem first, whether the text or the
meaning of a member is at fault. Values that are complete have no broken part
(`Json.firstBroken`).

An object that is stored or sent keeps its members in ascending order of their names, each name
once: `Json.insertMember` and `Json.eraseMember` keep that form, `Json.canonical` establishes it,
and `Json.record` builds it. Two such values are the same value only if they are equal terms.
-/

namespace ReplicaSetOperator

/-- Why a JSON value could not be taken for what was expected. -/
inductive DecodeError where
  /-- The text breaks the grammar. -/
  | malformed
  /-- The text ends early. -/
  | truncated
  /-- A value has the wrong type or is out of range. -/
  | mismatch
  /-- A required member is absent. -/
  | missingField (name : String)
  /-- A member is there twice. -/
  | repeatedField (name : String)
  /-- A text is none of the expected names. -/
  | unknownVariant (name : String) (expected : List String)
deriving DecidableEq, Inhabited

namespace DecodeError

/-- A name between the marks that set it off from a message. -/
def marked (name : String) : String := String.join ["`", name, "`"]

/-- The names that would have been expected. -/
def expectation : List String → String
  | [] => "there are no variants"
  | [a] => "expected " ++ marked a
  | [a, b] => String.join ["expected ", marked a, " or ", marked b]
  | names => "expected one of " ++ ", ".intercalate (names.map marked)

/-- The message of an error that names a member or a variant. -/
def detail? : DecodeError → Option String
  | .missingField name => some ("missing field " ++ marked name)
  | .repeatedField name => some ("duplicate field " ++ marked name)
  | .unknownVariant name names =>
    some (String.join ["unknown variant ", marked name, ", ", expectation names])
  | _ => none

end DecodeError

/-- A number: an integer of at most 64 bits, or a double. A number that is only written may be one
of the 32-bit format. -/
inductive Number where
  | integer (value : Int)
  | real (value : Binary)
  | single (value : Binary)
deriving DecidableEq, Inhabited

/-- What stands at the place where a text stops being readable. -/
inductive Place where
  /-- A value is due, and nothing of it stands there, or the beginning of a string. -/
  | value
  /-- The beginning of one of the three words. -/
  | word
  /-- The beginning of a number. -/
  | number
  /-- The name of a member is due. -/
  | name
  /-- A value is complete, and a comma or an end is due. -/
  | next
deriving DecidableEq, Inhabited

/-- What is wrong with a text at a place. -/
inductive Flaw where
  /-- Nothing is readable from here on. -/
  | unread (place : Place) (error : DecodeError)
  /-- A value that is written correctly and stands for none. -/
  | oddValue
  /-- The name of the member that follows is written correctly and stands for no text. -/
  | oddName
  /-- The array or object that begins here stands inside too many others. -/
  | tooDeep
deriving DecidableEq, Inhabited

namespace Flaw

/-- The error that a flaw is for whoever looks at it. -/
def error : Flaw → DecodeError
  | .unread _ e => e
  | .oddValue | .oddName | .tooDeep => .malformed

/-- The error that a flaw is for whoever passes over it, if it is one: a number that breaks off
is malformed for those who do not need its value. -/
def passed? : Flaw → Option DecodeError
  | .unread .number _ => some .malformed
  | .unread _ e => some e
  | .oddValue | .oddName | .tooDeep => none

end Flaw

/-- A JSON value. `broken` stands where a text has a flaw. -/
inductive Json where
  | null
  | bool (value : Bool)
  | number (value : Number)
  | string (text : String)
  | array (items : List Json)
  | object (members : List (String × Json))
  | broken (flaw : Flaw)
deriving Inhabited

/-! ### Equality -/

mutual

/-- Decides the equality of two values. -/
def Json.decide : (a b : Json) → Decidable (a = b)
  | .null, .null => .isTrue rfl
  | .bool a, .bool b => if h : a = b then .isTrue (by rw [h]) else .isFalse (by simp [h])
  | .number a, .number b => if h : a = b then .isTrue (by rw [h]) else .isFalse (by simp [h])
  | .string a, .string b => if h : a = b then .isTrue (by rw [h]) else .isFalse (by simp [h])
  | .array a, .array b =>
    match decideItems a b with
    | .isTrue h => .isTrue (by rw [h])
    | .isFalse h => .isFalse (by simp [h])
  | .object a, .object b =>
    match decideMembers a b with
    | .isTrue h => .isTrue (by rw [h])
    | .isFalse h => .isFalse (by simp [h])
  | .broken a, .broken b => if h : a = b then .isTrue (by rw [h]) else .isFalse (by simp [h])
  | .null, .bool _ | .null, .number _ | .null, .string _ | .null, .array _ | .null, .object _
  | .null, .broken _ => .isFalse nofun
  | .bool _, .null | .bool _, .number _ | .bool _, .string _ | .bool _, .array _
  | .bool _, .object _ | .bool _, .broken _ => .isFalse nofun
  | .number _, .null | .number _, .bool _ | .number _, .string _ | .number _, .array _
  | .number _, .object _ | .number _, .broken _ => .isFalse nofun
  | .string _, .null | .string _, .bool _ | .string _, .number _ | .string _, .array _
  | .string _, .object _ | .string _, .broken _ => .isFalse nofun
  | .array _, .null | .array _, .bool _ | .array _, .number _ | .array _, .string _
  | .array _, .object _ | .array _, .broken _ => .isFalse nofun
  | .object _, .null | .object _, .bool _ | .object _, .number _ | .object _, .string _
  | .object _, .array _ | .object _, .broken _ => .isFalse nofun
  | .broken _, .null | .broken _, .bool _ | .broken _, .number _ | .broken _, .string _
  | .broken _, .array _ | .broken _, .object _ => .isFalse nofun

/-- Decides the equality of two lists of values. -/
def Json.decideItems : (a b : List Json) → Decidable (a = b)
  | [], [] => .isTrue rfl
  | a :: as, b :: bs =>
    match Json.decide a b, decideItems as bs with
    | .isTrue h, .isTrue h' => .isTrue (by rw [h, h'])
    | .isFalse h, _ => .isFalse (by simp [h])
    | _, .isFalse h => .isFalse (by simp [h])
  | [], _ :: _ | _ :: _, [] => .isFalse nofun

/-- Decides the equality of two lists of members. -/
def Json.decideMembers : (a b : List (String × Json)) → Decidable (a = b)
  | [], [] => .isTrue rfl
  | (k, a) :: as, (l, b) :: bs =>
    match decEq k l, Json.decide a b, decideMembers as bs with
    | .isTrue h, .isTrue h', .isTrue h'' => .isTrue (by rw [h, h', h''])
    | .isFalse h, _, _ => .isFalse (by simp [h])
    | _, .isFalse h, _ => .isFalse (by simp [h])
    | _, _, .isFalse h => .isFalse (by simp [h])
  | [], _ :: _ | _ :: _, [] => .isFalse nofun

end

instance : DecidableEq Json := Json.decide

namespace Json

/-- The members of an object. -/
abbrev Members := List (String × Json)

/-! ### Members -/

/-- The value of the first member of a given name. -/
def find? (key : String) (members : Members) : Option Json :=
  members.lookup key

/-- Puts a value under a name into members in ascending order, in place of the one there. -/
def insertMember (key : String) (value : Json) : Members → Members
  | [] => [(key, value)]
  | (k, v) :: rest =>
    if key = k then (key, value) :: rest
    else if key < k then (key, value) :: (k, v) :: rest
    else (k, v) :: insertMember key value rest

/-- Takes the members of a name away. -/
def eraseMember (key : String) (members : Members) : Members :=
  members.filter fun m => m.1 != key

/-- Members in ascending order of their names; of two with one name the later counts. -/
def sortMembers (members : Members) : Members :=
  members.foldl (fun sorted m => insertMember m.1 m.2 sorted) []

/-- The object with those of the given members that are there. -/
def record (members : List (String × Option Json)) : Json :=
  .object (sortMembers (members.filterMap fun m => m.2.map (m.1, ·)))

/-- The members of an object; other values have none. -/
def members : Json → Members
  | .object ms => ms
  | _ => []

@[simp] theorem members_object (ms : Members) : (Json.object ms).members = ms := rfl

/-- The member of an object. -/
def get? (j : Json) (key : String) : Option Json :=
  find? key j.members

/-- The value at the end of a path of names. -/
def at? (j : Json) : List String → Option Json
  | [] => some j
  | key :: path => (j.get? key).bind (at? · path)

/-- Puts a value under a name; what is not an object becomes one. -/
def set (j : Json) (key : String) (value : Json) : Json :=
  .object (insertMember key value j.members)

/-- Puts a value at the end of a path of names. -/
def setAt (j : Json) : List String → Json → Json
  | [], value => value
  | key :: path, value => j.set key (setAt ((j.get? key).getD .null) path value)

/-! ### What is found where -/

@[simp] theorem find?_nil (k : String) : find? k [] = none := rfl

theorem find?_cons (k key : String) (value : Json) (ms : Members) :
    find? k ((key, value) :: ms) = if k = key then some value else find? k ms := by
  unfold find?
  by_cases h : k = key
  · simp [h]
  · simp [List.lookup_cons, beq_false_of_ne h, h]

/-- Finding after an insertion: the new value under its name, and all else as before. -/
theorem find?_insertMember (k key : String) (value : Json) (ms : Members) :
    find? k (insertMember key value ms) = if k = key then some value else find? k ms := by
  induction ms with
  | nil => simp [insertMember, find?_cons]
  | cons m rest ih =>
    obtain ⟨name, v⟩ := m
    unfold insertMember
    split
    · next same =>
      subst same
      simp only [find?_cons]
      split <;> rfl
    · split
      · rw [find?_cons]
      · next differ _ =>
        simp only [find?_cons, ih]
        grind

/-- Finding after an erasure: nothing under that name, and all else as before. -/
theorem find?_eraseMember (k key : String) (ms : Members) :
    find? k (eraseMember key ms) = if k = key then none else find? k ms := by
  induction ms with
  | nil => simp [eraseMember]
  | cons m rest ih =>
    obtain ⟨name, v⟩ := m
    unfold eraseMember at ih ⊢
    by_cases same : name = key
    · rw [List.filter_cons_of_neg (by simp [same]), ih, find?_cons]
      grind
    · rw [List.filter_cons_of_pos (by simp [same]), find?_cons, find?_cons, ih]
      grind

/-- What has been set is found, and all else is as before. -/
theorem get?_set (j : Json) (k key : String) (value : Json) :
    (j.set key value).get? k = if k = key then some value else j.get? k := by
  simp [get?, set, find?_insertMember]

/-- The text of a string value. -/
def string? : Json → Option String
  | .string s => some s
  | _ => none

/-- The number of an integer value. -/
def integer? : Json → Option Int
  | .number (.integer i) => some i
  | _ => none

/-- The items of an array. -/
def array? : Json → Option (List Json)
  | .array items => some items
  | _ => none

/-- The value of a truth value. -/
def bool? : Json → Option Bool
  | .bool b => some b
  | _ => none

/-- The number of an integer. -/
def ofInt (i : Int) : Json := .number (.integer i)

/-! ### Whole values -/

mutual

/-- Sorts the members of every object and keeps the last one of each name. -/
def canonical : Json → Json
  | .array items => .array (canonicalItems items)
  | .object ms => .object (sortMembers (canonicalMembers ms))
  | j => j

/-- The canonical forms of values. -/
def canonicalItems : List Json → List Json
  | [] => []
  | j :: rest => canonical j :: canonicalItems rest

/-- Members with canonical values. -/
def canonicalMembers : Members → Members
  | [] => []
  | (k, j) :: rest => (k, canonical j) :: canonicalMembers rest

end

mutual

/-- The error at the first flaw in document order, for one who looks at the value if `strict`, and
for one who passes over it otherwise. -/
def firstBroken (strict : Bool) : Json → Option DecodeError
  | .broken flaw => if strict then some flaw.error else flaw.passed?
  | .array items => firstBrokenItem strict items
  | .object ms => firstBrokenMember strict ms
  | _ => none

/-- The error at the first flaw of a list of values. -/
def firstBrokenItem (strict : Bool) : List Json → Option DecodeError
  | [] => none
  | j :: rest => (firstBroken strict j).or (firstBrokenItem strict rest)

/-- The error at the first flaw of a list of members. -/
def firstBrokenMember (strict : Bool) : Members → Option DecodeError
  | [] => none
  | (_, j) :: rest => (firstBroken strict j).or (firstBrokenMember strict rest)

end

/-- The error that whoever passes over the value of a member meets. -/
def passed : Json → Option DecodeError
  | .broken .oddName | .broken .tooDeep => some .malformed
  | j => j.firstBroken false

/-! ### Merge patches -/

mutual

/-- Merges a patch into a value: the members of an object are merged one by one, a null takes a
member away, and any other patch replaces the value. -/
def merge : Json → Json → Json
  | .object changes, target => .object (mergeMembers changes target.members)
  | patch, _ => patch

/-- Merges the members of a patch into the members of an object. -/
def mergeMembers : Members → Members → Members
  | [], ms => ms
  | (key, patch) :: rest, ms =>
    mergeMembers rest <|
      match patch with
      | .null => eraseMember key ms
      | patch => insertMember key (merge patch ((find? key ms).getD .null)) ms

end

end Json

end ReplicaSetOperator

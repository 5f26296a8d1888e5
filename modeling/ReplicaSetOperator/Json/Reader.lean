import ReplicaSetOperator.Json.Number
import ReplicaSetOperator.Text.Bytes

/-!
# Reading JSON texts

The reader is a machine that takes one character at a time (`Reader.step`), so that reading is a
fold over the text and never fails: `Json.read` gives the value as far as the text goes, with a
broken part where it stops being readable, and says whether anything but blanks follows the value.
`Json.parse` takes whole values only.

Some parts are readable for whoever passes over them and for nobody else: a number that is out of
range, a string with escapes or octets that form no Unicode text, and an array or object that
stands inside too many others (`Reader.maxDepth`).
-/

namespace ReplicaSetOperator

namespace Reader

/-- What is open around the place being read: the items of an array or the members of an object
that are complete, the last one first, and the name whose value is due. -/
inductive Frame where
  | array (items : List Json)
  | member (members : Json.Members) (key : String)

/-- Closes the open arrays and objects around a value. -/
def wrap : List Frame → Json → Json
  | [], j => j
  | .array items :: rest, j => wrap rest (.array (j :: items).reverse)
  | .member ms key :: rest, j => wrap rest (.object ((key, j) :: ms).reverse)

/-- Where in an escape the next character of a string stands. -/
inductive Escape where
  | outside
  | backslash
  | hex (digits : List Char) (bytesLeft : Nat)

/-- The characters of a string read so far, the last one first. `pending` is the first half of a
character given by two escapes; `odd` says that an escape stood for no character, and `alien` that
an octet belonged to none. -/
structure Buffer where
  chars : List Char := []
  pending : Option Nat := none
  odd : Bool := false
  alien : Bool := false

namespace Buffer

/-- Adds a character. -/
def push (b : Buffer) (c : Char) : Buffer :=
  { b with chars := c :: b.chars, pending := none, odd := b.odd || b.pending.isSome }

/-- Adds a 16-bit unit given by an escape. -/
def pushUnit (b : Buffer) (u : Nat) : Buffer :=
  if 0xD800 ≤ u ∧ u < 0xDC00 then { b with pending := some u, odd := b.odd || b.pending.isSome }
  else if 0xDC00 ≤ u ∧ u < 0xE000 then
    match b.pending with
    | some first =>
      { b with
        chars := Char.ofNat (0x10000 + (first - 0xD800) * 0x400 + (u - 0xDC00)) :: b.chars
        pending := none }
    | none => { b with odd := true }
  else b.push (Char.ofNat u)

/-- Adds an octet that belongs to no character. -/
def pushAlien (b : Buffer) : Buffer :=
  { b with pending := none, odd := b.odd || b.pending.isSome, alien := true }

/-- The text, if every escape and every octet stood for a character. -/
def text? (b : Buffer) : Option String :=
  if b.odd || b.alien || b.pending.isSome then none else some (String.ofList b.chars.reverse)

end Buffer

/-- Where in a number literal the next character stands. -/
inductive Phase where
  | sign
  | zero
  | whole
  | point
  | fraction
  | mark
  | exponentSign
  | exponent
deriving DecidableEq

/-- Whether a number may end here. -/
def Phase.complete : Phase → Bool
  | .zero | .whole | .fraction | .exponent => true
  | _ => false

/-- The value of a decimal digit. -/
def digit? (c : Char) : Option Nat :=
  if '0' ≤ c ∧ c ≤ '9' then some (c.toNat - '0'.toNat) else none

/-- Takes one more character into a literal, if it continues one. -/
def extend (phase : Phase) (l : Literal) (c : Char) : Option (Phase × Literal) :=
  match phase, digit? c with
  | .sign, some 0 => some (.zero, { l with whole := [0] })
  | .sign, some d => some (.whole, { l with whole := [d] })
  | .whole, some d => some (.whole, { l with whole := d :: l.whole })
  | .point, some d | .fraction, some d => some (.fraction, { l with fraction := d :: l.fraction })
  | .mark, some d | .exponentSign, some d | .exponent, some d =>
    some (.exponent, { l with exponent := l.exponent * 10 + d })
  | .zero, none | .whole, none =>
    if c = '.' then some (.point, { l with isReal := true })
    else if c = 'e' ∨ c = 'E' then some (.mark, { l with isReal := true })
    else none
  | .fraction, none => if c = 'e' ∨ c = 'E' then some (.mark, l) else none
  | .mark, none =>
    if c = '+' then some (.exponentSign, l)
    else if c = '-' then some (.exponentSign, { l with exponentNegative := true })
    else none
  | _, _ => none

/-- The state of the machine. -/
inductive State where
  /-- A value is due; `opened` says that the array around it may still be closed empty. -/
  | value (frames : List Frame) (opened : Bool)
  /-- Inside a string: a value, or the name of a member of an object. -/
  | text (frames : List Frame) (name : Option Json.Members) (buffer : Buffer) (escape : Escape)
  /-- Inside a number; the digits are held last first. -/
  | number (frames : List Frame) (phase : Phase) (literal : Literal)
  /-- Inside one of the three words. -/
  | word (frames : List Frame) (due : List Char) (result : Json)
  /-- A name is due; `opened` says that the object may still be closed empty. -/
  | key (members : Json.Members) (frames : List Frame) (opened : Bool)
  /-- The colon after a name is due. -/
  | colon (members : Json.Members) (name : String) (frames : List Frame)
  /-- A comma or the end of an array is due. -/
  | afterItem (items : List Json) (frames : List Frame)
  /-- A comma or the end of an object is due. -/
  | afterMember (members : Json.Members) (frames : List Frame)
  /-- The outermost value is complete; `trailing` says that more than blanks follow it. -/
  | ended (value : Json) (trailing : Bool)
  /-- The text is not readable further. -/
  | stopped (value : Json)

/-- A value that has been read as far as a place. -/
def cut (frames : List Frame) (place : Place) (e : DecodeError) : Json :=
  wrap frames (.broken (.unread place e))

/-- Stops at a place where the text breaks the grammar. -/
def stop (frames : List Frame) (place : Place) : State := .stopped (cut frames place .malformed)

/-- How many arrays and objects may stand inside one another for whoever looks at them. -/
def maxDepth : Nat := 127

/-- Whether no further array or object may begin inside those that are open. -/
def isFull (frames : List Frame) : Bool :=
  !(frames.drop (maxDepth - 1)).isEmpty

/-- Puts a complete value into what is open around it. -/
def close (j : Json) : List Frame → State
  | [] => .ended j false
  | .array items :: rest => .afterItem (j :: items) rest
  | .member ms key :: rest => .afterMember ((key, j) :: ms) rest

/-- The blanks of the grammar. -/
def isBlank (c : Char) : Bool :=
  c = ' ' || c = '\n' || c = '\t' || c = '\r'

/-- The value of a finished literal. -/
def numberValue (l : Literal) : Json :=
  match ({ l with whole := l.whole.reverse, fraction := l.fraction.reverse } : Literal).number? with
  | some n => .number n
  | none => .broken .oddValue

/-- A character where a value is due. -/
def stepValue (frames : List Frame) (opened : Bool) (c : Char) : State :=
  if isBlank c then .value frames opened
  else if c = '"' then .text frames none {} .outside
  else if c = '[' then
    .value (.array (if isFull frames then [.broken .tooDeep] else []) :: frames) true
  else if c = '{' then .key (if isFull frames then [("", .broken .tooDeep)] else []) frames true
  else if c = '-' then .number frames .sign { negative := true }
  else if c = 't' then .word frames ['r', 'u', 'e'] (.bool true)
  else if c = 'f' then .word frames ['a', 'l', 's', 'e'] (.bool false)
  else if c = 'n' then .word frames ['u', 'l', 'l'] .null
  else
    match extend .sign {} c with
    | some (phase, l) => .number frames phase l
    | none =>
      match c, opened, frames with
      | ']', true, .array items :: rest => close (.array items.reverse) rest
      | _, _, _ => stop frames .value

/-- A character after a complete value. -/
def stepAfter (s : State) (c : Char) : State :=
  match s with
  | .afterItem items frames =>
    if isBlank c then s
    else if c = ',' then .value (.array items :: frames) false
    else if c = ']' then close (.array items.reverse) frames
    else stop (.array items :: frames) .next
  | .afterMember ms frames =>
    if isBlank c then s
    else if c = ',' then .key ms frames false
    else if c = '}' then close (.object ms.reverse) frames
    else stop (.member ms "" :: frames) .next
  | .ended j trailing => .ended j (trailing || !isBlank c)
  | s => s

/-- The value of four hexadecimal digits, the last one first. -/
def hexUnit? (digits : List Char) : Option Nat :=
  if digits.length = 4 then
    digits.foldr (fun c acc => acc.bind fun n => (Bytes.hexValue? c).map (n * 16 + ·)) (some 0)
  else none

/-- The character of a two-character escape. -/
def simpleEscape? : Char → Option Char
  | '"' => some '"'
  | '\\' => some '\\'
  | '/' => some '/'
  | 'b' => some '\x08'
  | 'f' => some '\x0c'
  | 'n' => some '\n'
  | 'r' => some '\r'
  | 't' => some '\t'
  | _ => none

/-- The end of a string. -/
def closeText (frames : List Frame) (name : Option Json.Members) (b : Buffer) : State :=
  match name, b.text? with
  | none, some s => close (.string s) frames
  | none, none => close (.broken .oddValue) frames
  | some ms, some s => .colon ms s frames
  | some ms, none => .colon (("", .broken .oddName) :: ms) "" frames

/-- A value that has been read as far as the inside of a string. -/
def cutText (frames : List Frame) (name : Option Json.Members) (e : DecodeError) : Json :=
  match name with
  | none => cut frames .value e
  | some ms => cut (.member ms "" :: frames) .name e

/-- A character inside a string. -/
def stepText (frames : List Frame) (name : Option Json.Members) (b : Buffer) (escape : Escape)
    (c : Char) : State :=
  match escape with
  | .outside =>
    if c = '"' then closeText frames name b
    else if c = '\\' then .text frames name b .backslash
    else if c < ' ' then .stopped (cutText frames name .malformed)
    else .text frames name (b.push c) .outside
  | .backslash =>
    if c = 'u' then .text frames name b (.hex [] 4)
    else
      match simpleEscape? c with
      | some d => .text frames name (b.push d) .outside
      | none => .stopped (cutText frames name .malformed)
  | .hex digits left =>
    if c.utf8Size < left then .text frames name b (.hex (c :: digits) (left - c.utf8Size))
    else
      match hexUnit? (c :: digits) with
      | some u => .text frames name (b.pushUnit u) .outside
      | none => .stopped (cutText frames name .malformed)

/-- Takes one character. -/
def step (s : State) (c : Char) : State :=
  match s with
  | .value frames opened => stepValue frames opened c
  | .text frames name b escape => stepText frames name b escape c
  | .number frames phase l =>
    match extend phase l c with
    | some (phase, l) => .number frames phase l
    | none =>
      if phase.complete && !(phase == .zero && (digit? c).isSome) then
        stepAfter (close (numberValue l) frames) c
      else stop frames .number
  | .word frames [] result => stepAfter (close result frames) c
  | .word frames (d :: due) result =>
    if c = d then
      match due with
      | [] => close result frames
      | due => .word frames due result
    else stop frames .word
  | .key ms frames opened =>
    if isBlank c then s
    else if c = '"' then .text frames (some ms) {} .outside
    else if c = '}' ∧ opened then close (.object ms.reverse) frames
    else stop (.member ms "" :: frames) .name
  | .colon ms name frames =>
    if isBlank c then s
    else if c = ':' then .value (.member ms name :: frames) false
    else stop (.member ms name :: frames) .value
  | .afterItem _ _ | .afterMember _ _ | .ended _ _ => stepAfter s c
  | .stopped j => .stopped j

/-- Takes an octet that belongs to no character. -/
def stepAlien (s : State) : State :=
  match s with
  | .text frames name b .outside => .text frames name b.pushAlien .outside
  | s => step s '\x00'

/-- What has been read when the text ends after a complete value. -/
def finishAfter : State → Json
  | .afterItem items frames => cut (.array items :: frames) .next .truncated
  | .afterMember ms frames => cut (.member ms "" :: frames) .next .truncated
  | .ended j _ => j
  | _ => .broken (.unread .next .truncated)

/-- What has been read when the text ends inside a string. Whoever looks at it meets an escape
that stood for no character before the end. -/
def finishText (frames : List Frame) (name : Option Json.Members) (b : Buffer) : Json :=
  match name, b.odd with
  | none, true => finishAfter (close (.broken .oddValue) frames)
  | some ms, true => cutText frames (some (("", .broken .oddName) :: ms)) .truncated
  | name, false => cutText frames name .truncated

/-- What has been read when the text ends, and whether more than a value was there. -/
def finish : State → Json × Bool
  | .value frames _ => (cut frames .value .truncated, false)
  | .word frames _ _ => (cut frames .word .truncated, false)
  | .text frames name b _ => (finishText frames name b, false)
  | .number frames phase l =>
    (if phase.complete then finishAfter (close (numberValue l) frames)
     else cut frames .number .truncated,
     false)
  | .key ms frames _ => (cut (.member ms "" :: frames) .name .truncated, false)
  | .colon ms name frames => (cut (.member ms name :: frames) .value .truncated, false)
  | .afterItem items frames => (finishAfter (.afterItem items frames), false)
  | .afterMember ms frames => (finishAfter (.afterMember ms frames), false)
  | .ended j trailing => (j, trailing)
  | .stopped j => (j, false)

end Reader

namespace Json

/-- The value that a text holds, as far as it is readable, and whether more than blanks follow. -/
def read (text : List Char) : Json × Bool :=
  Reader.finish (text.foldl Reader.step (.value [] false))

/-- The value that octets hold, where nothing stands for an octet that belongs to no character. -/
def readOctets (text : List (Option Char)) : Json × Bool :=
  Reader.finish <| text.foldl
    (fun s c =>
      match c with
      | some c => Reader.step s c
      | none => Reader.stepAlien s)
    (.value [] false)

/-- The whole value of a text, in canonical form. -/
def parse (text : List Char) : Except DecodeError Json :=
  let (j, trailing) := read text
  match j.firstBroken true with
  | some e => .error e
  | none => if trailing then .error .malformed else .ok j.canonical

end Json

end ReplicaSetOperator

/-!
# Timestamps

A `Timestamp` is a date of the Gregorian calendar with a time of day, in UTC and whole seconds.
The sixtieth second of a minute is allowed, for leap seconds.

`Timestamp.text` writes the form `2024-01-31T08:05:09Z`; a year outside 0 to 9999 has its sign.
`Timestamp.parse?` reads this form and its relatives: `t` or a space between date and time, blanks
around the parts, numbers with fewer digits, a fraction of a second (which is cut off), and any
offset of less than a day, which is taken out of the time.
-/

namespace ReplicaSetOperator

/-- A date and a time of day in UTC. -/
structure Timestamp where
  year : Int
  month : Nat
  day : Nat
  hour : Nat
  minute : Nat
  second : Nat
deriving DecidableEq, Inhabited

namespace Timestamp

/-! ### The calendar -/

/-- Whether a year has a 29th of February. -/
def isLeap (year : Int) : Bool :=
  year % 4 = 0 ∧ (year % 100 ≠ 0 ∨ year % 400 = 0)

/-- The number of days of a month. -/
def daysIn (year : Int) (month : Nat) : Nat :=
  if month = 2 then if isLeap year then 29 else 28
  else if month = 4 ∨ month = 6 ∨ month = 9 ∨ month = 11 then 30
  else 31

/-- The same time on the next day. -/
def nextDay (t : Timestamp) : Timestamp :=
  if t.day < daysIn t.year t.month then { t with day := t.day + 1 }
  else if t.month < 12 then { t with month := t.month + 1, day := 1 }
  else { t with year := t.year + 1, month := 1, day := 1 }

/-- The same time on the day before. -/
def previousDay (t : Timestamp) : Timestamp :=
  if 1 < t.day then { t with day := t.day - 1 }
  else if 1 < t.month then
    { t with month := t.month - 1, day := daysIn t.year (t.month - 1) }
  else { t with year := t.year - 1, month := 12, day := 31 }

/-- Whether every part is in its range. -/
def Valid (t : Timestamp) : Prop :=
  -262143 ≤ t.year ∧ t.year ≤ 262142 ∧ 1 ≤ t.month ∧ t.month ≤ 12 ∧ 1 ≤ t.day ∧
    t.day ≤ daysIn t.year t.month ∧ t.hour ≤ 23 ∧ t.minute ≤ 59 ∧ t.second ≤ 60

instance (t : Timestamp) : Decidable t.Valid := by
  unfold Valid
  infer_instance

/-- The time in UTC of a local time that is ahead of it by some minutes, less than a day. -/
def ahead (t : Timestamp) (minutes : Int) : Timestamp :=
  let total : Int := t.hour * 60 + t.minute - minutes
  let within (n : Int) : Timestamp :=
    { t with hour := n.toNat / 60, minute := n.toNat % 60 }
  if total < 0 then (within (total + 1440)).previousDay
  else if 1440 ≤ total then (within (total - 1440)).nextDay
  else within total

/-- The days from the first one of the year 1970 to that of a timestamp. The year is taken to
begin in March, so that the day of a leap year is its last. -/
def days (t : Timestamp) : Int :=
  let year := if t.month ≤ 2 then t.year - 1 else t.year
  let month : Int := (t.month + 9) % 12
  365 * year + year / 4 - year / 100 + year / 400 + (153 * month + 2) / 5 + t.day - 719469

/-- The seconds from the beginning of the year 1970 to a timestamp. -/
def seconds (t : Timestamp) : Int :=
  ((t.days * 24 + t.hour) * 60 + t.minute) * 60 + t.second

/-! ### Writing -/

/-- A number with zeros in front up to a width. -/
def padded (width n : Nat) : List Char :=
  let ds := (toString n).toList
  List.replicate (width - ds.length) '0' ++ ds

/-- The text of a year. -/
def yearText (year : Int) : List Char :=
  if 0 ≤ year ∧ year ≤ 9999 then padded 4 year.natAbs
  else (if year < 0 then '-' else '+') :: padded 4 year.natAbs

/-- The text of a timestamp. -/
def text (t : Timestamp) : List Char :=
  yearText t.year ++ '-' :: padded 2 t.month ++ '-' :: padded 2 t.day ++ 'T' :: padded 2 t.hour ++
    ':' :: padded 2 t.minute ++ ':' :: padded 2 t.second ++ ['Z']

/-! ### Reading -/

/-- The blanks of Unicode. -/
def isBlank (c : Char) : Bool :=
  let n := c.toNat
  (9 ≤ n ∧ n ≤ 13) ∨ n = 0x20 ∨ n = 0x85 ∨ n = 0xA0 ∨ n = 0x1680 ∨ (0x2000 ≤ n ∧ n ≤ 0x200A) ∨
    n = 0x2028 ∨ n = 0x2029 ∨ n = 0x202F ∨ n = 0x205F ∨ n = 0x3000

/-- Leaves the blanks at the front out. -/
def skipBlanks (cs : List Char) : List Char :=
  cs.dropWhile isBlank

/-- The number at the front, of at most `width` digits, after blanks. -/
def number? (width : Nat) (cs : List Char) : Option (Nat × List Char) :=
  let cs := skipBlanks cs
  let ds := (cs.take width).takeWhile Char.isDigit
  if ds.isEmpty then none
  else some (ds.foldl (fun n d => n * 10 + (d.toNat - '0'.toNat)) 0, cs.drop ds.length)

/-- The year at the front: with a sign of any length, without one of four digits at most. -/
def year? (cs : List Char) : Option (Int × List Char) :=
  let signed (rest : List Char) : Option (Nat × List Char) :=
    if (rest.head?.map Char.isDigit).getD false then number? rest.length rest else none
  match skipBlanks cs with
  | '-' :: rest => (signed rest).map fun p => (-(p.1 : Int), p.2)
  | '+' :: rest => (signed rest).map fun p => ((p.1 : Int), p.2)
  | rest => (number? 4 rest).map fun p => ((p.1 : Int), p.2)

/-- The rest after a given character, which blanks may precede. -/
def mark? (c : Char) (cs : List Char) : Option (List Char) :=
  match skipBlanks cs with
  | d :: rest => if d = c then some rest else none
  | [] => none

/-- The rest after the character between date and time. -/
def separator? : List Char → Option (List Char)
  | 'T' :: rest | 't' :: rest | ' ' :: rest => some rest
  | _ => none

/-- The rest after the fraction of a second, if there is one; it has a digit at least. -/
def fraction? : List Char → Option (List Char)
  | '.' :: rest =>
    if (rest.head?.map Char.isDigit).getD false then some (rest.dropWhile Char.isDigit) else none
  | rest => some rest

/-- The offset at the front in minutes. -/
def offset? (cs : List Char) : Option (Int × List Char) :=
  match skipBlanks cs with
  | 'Z' :: rest | 'z' :: rest => some (0, rest)
  | sign :: rest =>
    if sign = '+' ∨ sign = '-' ∨ sign = '\u2212' then
      match rest with
      | h1 :: h2 :: rest =>
        match rest.dropWhile fun c => c = ':' || isBlank c with
        | m1 :: m2 :: rest =>
          if h1.isDigit && h2.isDigit && m1.isDigit && m2.isDigit && decide (m1 ≤ '5') then
            let value (c d : Char) : Nat := (c.toNat - '0'.toNat) * 10 + (d.toNat - '0'.toNat)
            let minutes : Int := value h1 h2 * 60 + value m1 m2
            if minutes < 1440 then some (if sign = '+' then minutes else -minutes, rest) else none
          else none
        | _ => none
      | _ => none
    else
      match sign.toUpper, rest with
      | 'U', c :: d :: rest => if c.toUpper = 'T' ∧ d.toUpper = 'C' then some (0, rest) else none
      | _, _ => none
  | [] => none

/-- The timestamp that a text gives. -/
def parse? (cs : List Char) : Option Timestamp := do
  let (year, cs) ← year? cs
  let cs ← mark? '-' cs
  let (month, cs) ← number? 2 cs
  let cs ← mark? '-' cs
  let (day, cs) ← number? 2 cs
  let cs ← separator? cs
  let (hour, cs) ← number? 2 cs
  let cs ← mark? ':' cs
  let (minute, cs) ← number? 2 cs
  let cs ← mark? ':' cs
  let (second, cs) ← number? 2 cs
  let cs ← fraction? cs
  let (offset, cs) ← offset? cs
  let here : Timestamp := ⟨year, month, day, hour, minute, second⟩
  let utc := here.ahead offset
  if (skipBlanks cs).isEmpty ∧ here.Valid ∧ utc.Valid then some utc else none

end Timestamp

end ReplicaSetOperator

import ReplicaSetOperator.Json.Number

/-!
# Writing YAML texts

`Yaml.text` writes a JSON value as a YAML document in block style, by lines: the members of an
object one below the other, the items of an array behind dashes in the column of their name, and
a text of several lines as a literal block. A text stands plain if it reads back as itself, and
between single quotes otherwise.
-/

namespace ReplicaSetOperator

namespace Yaml

/-- The texts that stand for something else when they are plain. -/
def reserved : List String :=
  ["null", "Null", "NULL", "~", "true", "True", "TRUE", "false", "False", "FALSE", "yes", "Yes",
   "YES", "no", "No", "NO", "on", "On", "ON", "off", "Off", "OFF", "y", "Y", "n", "N"]

/-- Whether two characters with special meaning when they follow each other do so in a text. -/
def hasMark : List Char → Bool
  | ':' :: ' ' :: _ | ' ' :: '#' :: _ => true
  | _ :: rest => hasMark rest
  | [] => false

/-- Whether a text could be taken for a number: it has no characters but those of numbers, and at
most one point. -/
def looksNumeric (cs : List Char) : Bool :=
  cs.all (fun c => c.isDigit || c = '.' || c = '_' || c = 'e' || c = 'E' || c = '+' || c = '-') &&
    cs.count '.' ≤ 1

/-- Whether a text of one line reads back as itself without quotes. -/
def isPlain (s : String) : Bool :=
  let cs := s.toList
  match cs with
  | [] => false
  | c :: _ =>
    c.isAlphanum && cs.getLast? != some ' ' && cs.getLast? != some ':' && !hasMark cs &&
      !looksNumeric cs && !(s ∈ reserved)

/-- A text of one line between single quotes, if it needs them. -/
def scalarText (s : String) : String :=
  if isPlain s then s
  else String.ofList ('\'' :: s.toList.flatMap (fun c => if c = '\'' then ['\'', '\''] else [c])
    ++ ['\''])

/-- A line further to the right; an empty one stays empty. -/
def indent (line : String) : String := if line.isEmpty then line else "  " ++ line

/-- The lines of an item, behind a dash. -/
def dashed : List String → List String
  | [] => []
  | first :: rest => ("- " ++ first) :: rest.map indent

mutual

/-- The lines of a value that stands on its own. -/
def lines : Json → List String
  | .object (m :: ms) => memberLines (m :: ms)
  | .array (j :: rest) => itemLines (j :: rest)
  | .object [] => ["{}"]
  | .array [] => ["[]"]
  | .null | .broken _ => ["null"]
  | .bool b => [if b then "true" else "false"]
  | .number n => [String.ofList n.text]
  | .string s =>
    if s.contains '\n' then "|-" :: s.splitOn "\n" else [scalarText s]

/-- The lines of items. -/
def itemLines : List Json → List String
  | [] => []
  | j :: rest => dashed (lines j) ++ itemLines rest

/-- The lines of members. A nested object stands further to the right, a nested array does not,
and what takes one line stands behind the name. -/
def memberLines : Json.Members → List String
  | [] => []
  | (key, j) :: rest =>
    (match j, lines j with
      | .object (_ :: _), below => (scalarText key ++ ":") :: below.map indent
      | .array (_ :: _), below => (scalarText key ++ ":") :: below
      | _, [] => [scalarText key ++ ":"]
      | _, first :: below => String.join [scalarText key, ": ", first] :: below.map indent) ++
    memberLines rest

end

/-- The document of a value. -/
def text (j : Json) : String :=
  String.join ((lines j).map (· ++ "\n"))

end Yaml

end ReplicaSetOperator

import ReplicaSetOperator.Json.Number
import ReplicaSetOperator.Text.Bytes

/-!
# Writing JSON texts

`Json.print` writes a value without blanks. A string escapes the quote, the backslash and the
control characters below U+0020, and nothing else.
-/

namespace ReplicaSetOperator

namespace Json

/-- The escaped form of a character inside a string. -/
def escapeChar (c : Char) : List Char :=
  if c = '"' then ['\\', '"']
  else if c = '\\' then ['\\', '\\']
  else if c = '\x08' then ['\\', 'b']
  else if c = '\t' then ['\\', 't']
  else if c = '\n' then ['\\', 'n']
  else if c = '\x0c' then ['\\', 'f']
  else if c = '\r' then ['\\', 'r']
  else if c < ' ' then
    ['\\', 'u', '0', '0', Bytes.hexDigit (c.toNat / 16), Bytes.hexDigit (c.toNat % 16)]
  else [c]

/-- A string between quotes. -/
def printString (s : String) : List Char :=
  '"' :: s.toList.flatMap escapeChar ++ ['"']

mutual

/-- The text of a value. -/
def print : Json → List Char
  | .null => ['n', 'u', 'l', 'l']
  | .bool true => ['t', 'r', 'u', 'e']
  | .bool false => ['f', 'a', 'l', 's', 'e']
  | .number n => n.text
  | .string s => printString s
  | .array items => '[' :: printItems items ++ [']']
  | .object ms => '{' :: printMembers ms ++ ['}']
  | .broken _ => ['n', 'u', 'l', 'l']

/-- The texts of values, separated by commas. -/
def printItems : List Json → List Char
  | [] => []
  | [j] => print j
  | j :: rest => print j ++ ',' :: printItems rest

/-- The texts of members, separated by commas. -/
def printMembers : Members → List Char
  | [] => []
  | [(key, j)] => printString key ++ ':' :: print j
  | (key, j) :: rest => printString key ++ ':' :: print j ++ ',' :: printMembers rest

end

/-- The text of a value as a string. -/
def text (j : Json) : String :=
  String.ofList j.print

end Json

end ReplicaSetOperator

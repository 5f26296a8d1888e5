import ReplicaSetOperator.Text.Visible

/-!
# Quoted text

A text between quotes, for messages: the quote, the backslash and four controls have an escape of
two characters, every other character that does not show itself on its own is written as its
hexadecimal code in braces, and the rest stands as it is.
-/

namespace ReplicaSetOperator

namespace Quoted

/-- The form of a character inside quotes. -/
def escapeChar (c : Char) : List Char :=
  if c = '\x00' then ['\\', '0']
  else if c = '\t' then ['\\', 't']
  else if c = '\n' then ['\\', 'n']
  else if c = '\r' then ['\\', 'r']
  else if c = '"' then ['\\', '"']
  else if c = '\\' then ['\\', '\\']
  else if Visible.holds c then [c]
  else ['\\', 'u', '\x7b'] ++ Nat.toDigits 16 c.toNat ++ ['\x7d']

/-- A text between quotes. -/
def text (s : String) : String :=
  String.ofList ('"' :: s.toList.flatMap escapeChar ++ ['"'])

end Quoted

end ReplicaSetOperator

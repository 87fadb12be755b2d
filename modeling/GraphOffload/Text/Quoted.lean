import GraphOffload.Text.Unprintable

/-!
# Quoted texts

A text between double quotes, in which quotes, backslashes and unprintable characters are escaped.

## Main definitions

* `GraphOffload.Text.quoted` : the quoted form of a text.
-/

namespace GraphOffload.Text

/-- The lower-case hexadecimal digits of a number, without zeros before them. -/
def hexDigits (n : Nat) : List Char := Nat.toDigits 16 n

/-- A character inside quotes. -/
def quotedChar (c : Char) : List Char :=
  if c = '"' then ['\\', '"']
  else if c = '\\' then ['\\', '\\']
  else if c = '\n' then ['\\', 'n']
  else if c = '\r' then ['\\', 'r']
  else if c = '\t' then ['\\', 't']
  else if c.toNat = 0 then ['\\', '0']
  else if isUnprintable c then ['\\', 'u', '\x7b'] ++ hexDigits c.toNat ++ ['\x7d']
  else [c]

/-- The quoted form of a text. -/
def quoted (text : String) : String :=
  String.ofList (['"'] ++ text.toList.flatMap quotedChar ++ ['"'])

end GraphOffload.Text

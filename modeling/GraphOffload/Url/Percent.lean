import GraphOffload.Text.Utf8

/-!
# Percent encoding

In a URL, the bytes of characters that would have a meaning there are written as a percent sign
with two hexadecimal digits.

## Main definitions

* `GraphOffload.Percent.encode` : writes the bytes of a set of characters that way, and all bytes that
  are not ASCII.
* `GraphOffload.Percent.decode` : reads the bytes back.
-/

namespace GraphOffload.Percent

/-- The upper-case hexadecimal digit of a number below sixteen. -/
def hexDigit (n : Nat) : Char :=
  if n < 10 then Char.ofNat (48 + n) else Char.ofNat (55 + n)

/-- The value of a hexadecimal digit in either case. -/
def hexValue? (c : Char) : Option Nat :=
  if '0' ≤ c ∧ c ≤ '9' then some (c.toNat - 48)
  else if 'a' ≤ c ∧ c ≤ 'f' then some (c.toNat - 87)
  else if 'A' ≤ c ∧ c ≤ 'F' then some (c.toNat - 55)
  else none

/-- Whether a character is an ASCII control character. -/
def isControl (c : Char) : Bool := c.toNat < 32 || c.toNat = 127

/-- Characters that are written with a percent sign in a fragment. -/
def inFragment (c : Char) : Bool := isControl c || " \"<>`".toList.contains c

/-- Characters that are written with a percent sign in a query. -/
def inQuery (c : Char) : Bool := isControl c || " \"#<>".toList.contains c

/-- Characters that are written with a percent sign in a query to a server of the web. -/
def inWebQuery (c : Char) : Bool := inQuery c || c = '\x27'

/-- Characters that are written with a percent sign in a path. -/
def inPath (c : Char) : Bool := inFragment c || c = '#' || c = '?' || c = '\x7b' || c = '\x7d'

/-- Characters that are written with a percent sign in one segment of a path. -/
def inSegment (c : Char) : Bool := inPath c || c = '/' || c = '%' || c = '\\'

/-- Characters that are written with a percent sign in the name of a user. -/
def inUser (c : Char) : Bool :=
  inPath c || c = '/' || c = ':' || c = ';' || c = '=' || c = '@' || c = '[' || c = '\\' ||
    c = ']' || c = '^' || c = '|'

/-- A byte with a percent sign. -/
def ofByte (byte : UInt8) : List Char :=
  ['%', hexDigit (byte.toNat / 16), hexDigit (byte.toNat % 16)]

/-- A character as it stands, or its bytes with percent signs. -/
def encodeChar (reserved : Char → Bool) (c : Char) : List Char :=
  if c.toNat < 128 ∧ ¬ reserved c then [c]
  else (Utf8.bytes c.toString).flatMap ofByte

/-- A text whose reserved characters are written with percent signs. -/
def encode (reserved : Char → Bool) (text : List Char) : List Char :=
  text.flatMap (encodeChar reserved)

/-- The bytes that a text stands for: a percent sign with two digits is one byte, and any other
character its own UTF-8 form. -/
def decode : List Char → Bytes
  | [] => []
  | '%' :: a :: b :: rest =>
    match hexValue? a, hexValue? b with
    | some high, some low => .ofNat (16 * high + low) :: decode rest
    | _, _ => Utf8.bytes "%" ++ decode (a :: b :: rest)
  | c :: rest => Utf8.bytes c.toString ++ decode rest

end GraphOffload.Percent

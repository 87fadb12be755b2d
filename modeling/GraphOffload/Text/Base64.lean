import GraphOffload.Bytes

/-!
# Bytes as letters

Three bytes are written as four characters of six bits each; a group that is not full ends with
equals signs.

## Main definitions

* `GraphOffload.Base64.encode` : the text for bytes.
-/

namespace GraphOffload.Base64

/-- The character for six bits. -/
def digit (n : Nat) : Char :=
  if n < 26 then Char.ofNat (65 + n)
  else if n < 52 then Char.ofNat (71 + n)
  else if n < 62 then Char.ofNat (n - 4)
  else if n = 62 then '+'
  else '/'

/-- The first characters for a number of 24 bits. -/
def digits (count n : Nat) : List Char :=
  [n >>> 18, (n >>> 12) % 64, (n >>> 6) % 64, n % 64].take count |>.map digit

/-- The text for bytes. -/
def encode : Bytes → List Char
  | [] => []
  | [a] => digits 2 (a.toNat <<< 16) ++ ['=', '=']
  | [a, b] => digits 3 ((a.toNat <<< 16) + (b.toNat <<< 8)) ++ ['=']
  | a :: b :: c :: rest =>
    digits 4 ((a.toNat <<< 16) + (b.toNat <<< 8) + c.toNat) ++ encode rest

end GraphOffload.Base64

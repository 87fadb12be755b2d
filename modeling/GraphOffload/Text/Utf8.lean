import GraphOffload.Bytes

/-!
# Texts as bytes

The UTF-8 form of a text, and its reading. Bytes that are no text are read piece by piece: a piece is
a character, or as many bytes as a character could start with.

## Main definitions

* `GraphOffload.Utf8.pieces` : the characters of a byte string, and the places where there is none.
* `GraphOffload.Utf8.text?` : the text that a byte string is, if it is one.
* `GraphOffload.Utf8.lossyText` : the text with a replacement character where there is no other.
* `GraphOffload.Utf8.bytes` : the UTF-8 form of a text.
-/

namespace GraphOffload.Utf8

/-- What the first byte of a character says: how many bytes follow, the bounds of the first of them,
and the bits that the byte itself brings. -/
structure Lead where
  tails : Nat
  low : Nat := 0x80
  high : Nat := 0xBF
  bits : Nat

/-- What a byte says as the first one of a character, if it can be that. -/
def lead? (byte : Nat) : Option Lead :=
  if byte ≤ 0x7F then some { tails := 0, bits := byte }
  else if 0xC2 ≤ byte ∧ byte ≤ 0xDF then some { tails := 1, bits := byte - 0xC0 }
  else if byte = 0xE0 then some { tails := 2, low := 0xA0, bits := 0 }
  else if byte = 0xED then some { tails := 2, high := 0x9F, bits := 0xD }
  else if 0xE1 ≤ byte ∧ byte ≤ 0xEF then some { tails := 2, bits := byte - 0xE0 }
  else if byte = 0xF0 then some { tails := 3, low := 0x90, bits := 0 }
  else if byte = 0xF4 then some { tails := 3, high := 0x8F, bits := 4 }
  else if 0xF1 ≤ byte ∧ byte ≤ 0xF3 then some { tails := 3, bits := byte - 0xF0 }
  else none

/-- The number that the following bytes make up together with the bits so far, if all of them are
there; and what follows. -/
def readTails : Nat → Nat → Nat → Nat → Bytes → Option Nat × Bytes
  | 0, _, _, bits, rest => (some bits, rest)
  | _ + 1, _, _, _, [] => (none, [])
  | tails + 1, low, high, bits, byte :: rest =>
    if low ≤ byte.toNat ∧ byte.toNat ≤ high then
      readTails tails 0x80 0xBF (bits * 64 + (byte.toNat - 0x80)) rest
    else (none, byte :: rest)

/-- The first piece of a byte string, a character or none; and what follows. -/
def readPiece (byte : UInt8) (rest : Bytes) : Option Char × Bytes :=
  match lead? byte.toNat with
  | none => (none, rest)
  | some lead =>
    let (number, rest) := readTails lead.tails lead.low lead.high lead.bits rest
    (number.map Char.ofNat, rest)

/-- The pieces of a byte string, at most `limit` of them. -/
def piecesUpTo : Nat → Bytes → List (Option Char)
  | 0, _ => []
  | _, [] => []
  | limit + 1, byte :: rest =>
    let (piece, rest) := readPiece byte rest
    piece :: piecesUpTo limit rest

/-- The pieces of a byte string: a character each, or none. A piece takes a byte at least. -/
def pieces (bytes : Bytes) : List (Option Char) :=
  piecesUpTo bytes.length bytes

/-- The text that a byte string is, if it is one. -/
def text? (bytes : Bytes) : Option String :=
  ((pieces bytes).mapM id).map String.ofList

/-- The text of a byte string, with a replacement character for every piece that is none. -/
def lossyText (bytes : Bytes) : String :=
  String.ofList ((pieces bytes).map (·.getD '\uFFFD'))

/-- The UTF-8 form of a text. -/
def bytes (text : String) : Bytes := text.toUTF8.toList

end GraphOffload.Utf8

import GraphOffload.Text.Blank
import GraphOffload.Text.Segments
import GraphOffload.Text.Utf8

/-!
# Texts in other encodings

A message says in which encoding its text is. Bytes that mean nothing in an encoding become
replacement characters. A byte order mark at the beginning overrules what the message says.

## Main definitions

* `GraphOffload.Charset` : an encoding.
* `GraphOffload.Charset.ofContentType` : the encoding that a content type names.
* `GraphOffload.Charset.decode` : the text of bytes.
-/

namespace GraphOffload

/-- An encoding of texts. -/
inductive Charset
  | utf8
  /-- Pairs of bytes, the one of greater weight first or last. -/
  | utf16 (greaterFirst : Bool)
  /-- One byte for each character of western languages. -/
  | western
  deriving DecidableEq

namespace Charset

/-! ### Names -/

/-- Names of the encodings other than UTF-8. -/
def names : List (Charset × List String) :=
  [(.utf16 false, ["utf-16", "utf-16le", "unicode", "unicodefeff", "ucs-2", "csunicode",
      "iso-10646-ucs-2"]),
    (.utf16 true, ["utf-16be", "unicodefffe"]),
    (.western, ["ansi_x3.4-1968", "ascii", "cp1252", "cp819", "csisolatin1", "ibm819", "iso-8859-1",
      "iso-ir-100", "iso8859-1", "iso88591", "iso_8859-1", "iso_8859-1:1987", "l1", "latin1", "us-ascii",
      "windows-1252", "x-cp1252"])]

/-- The encoding of a name; UTF-8 for names that say nothing. -/
def ofName (name : String) : Charset :=
  ((names.find? fun entry => entry.2.contains (Text.lower name)).map Prod.fst).getD utf8

/-- A text without blanks around it. -/
def trim (text : List Char) : List Char :=
  (Text.dropBlanks (Text.dropBlanks text).reverse).reverse

/-- The value of the parameter with the name `charset` in a content type. -/
def parameter? (parameter : List Char) : Option String :=
  let (name, value) := parameter.span (· ≠ '=')
  if Text.lower (String.ofList (trim name)) = "charset" then
    some (String.ofList ((trim (value.drop 1)).filter (· ≠ '"')))
  else none

/-- The encoding that a content type names. -/
def ofContentType (text : Option String) : Charset :=
  match (text.map fun text => Text.split ';' text.toList).getD [] with
  | [] => utf8
  | kind :: parameters =>
    if kind.contains '/' then ((parameters.findSome? parameter?).map ofName).getD utf8 else utf8

/-! ### Decoding -/

/-- The characters of the bytes 128 to 159 in the western encoding. -/
def westernSigns : List Nat :=
  [0x20AC, 0x81, 0x201A, 0x192, 0x201E, 0x2026, 0x2020, 0x2021, 0x2C6, 0x2030, 0x160, 0x2039, 0x152,
    0x8D, 0x17D, 0x8F, 0x90, 0x2018, 0x2019, 0x201C, 0x201D, 0x2022, 0x2013, 0x2014, 0x2DC, 0x2122,
    0x161, 0x203A, 0x153, 0x9D, 0x17E, 0x178]

/-- The character of a byte in the western encoding. -/
def westernChar (byte : UInt8) : Char :=
  if 128 ≤ byte.toNat ∧ byte.toNat < 160 then Char.ofNat (westernSigns.getD (byte.toNat - 128) 0)
  else Char.ofNat byte.toNat

/-- Pairs of bytes as numbers; absent for a byte that is left over. -/
def pairs (greaterFirst : Bool) : Bytes → List (Option Nat)
  | [] => []
  | [_] => [none]
  | a :: b :: rest =>
    some (if greaterFirst then 256 * a.toNat + b.toNat else 256 * b.toNat + a.toNat) ::
      pairs greaterFirst rest

/-- Whether a number is the first or second half of a character outside the basic plane. -/
def isHalf (first : Nat) (n : Nat) : Bool := first ≤ n && n < first + 0x400

/-- The characters of pairs of bytes. -/
def pairChars : List (Option Nat) → List Char
  | [] => []
  | none :: rest => '\uFFFD' :: pairChars rest
  | some a :: some b :: rest =>
    if isHalf 0xD800 a ∧ isHalf 0xDC00 b then
      Char.ofNat (0x10000 + (a - 0xD800) * 0x400 + (b - 0xDC00)) :: pairChars rest
    else if isHalf 0xD800 a ∨ isHalf 0xDC00 a then '\uFFFD' :: pairChars (some b :: rest)
    else Char.ofNat a :: pairChars (some b :: rest)
  | some a :: rest =>
    (if isHalf 0xD800 a ∨ isHalf 0xDC00 a then '\uFFFD' else Char.ofNat a) :: pairChars rest

/-- The text of bytes without a byte order mark. -/
def decodeBody (bytes : Bytes) : Charset → String
  | utf8 => Utf8.lossyText bytes
  | utf16 greaterFirst => String.ofList (pairChars (pairs greaterFirst bytes))
  | western => String.ofList (bytes.map westernChar)

/-- The text of bytes. -/
def decode (charset : Charset) (bytes : Bytes) : String :=
  match bytes with
  | 0xEF :: 0xBB :: 0xBF :: rest => decodeBody rest utf8
  | 0xFE :: 0xFF :: rest => decodeBody rest (utf16 true)
  | 0xFF :: 0xFE :: rest => decodeBody rest (utf16 false)
  | _ => decodeBody bytes charset

end Charset

end GraphOffload

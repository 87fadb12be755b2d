import GraphOffload.Json.Value

/-!
# JSON texts

A JSON text is read into a document first, which keeps what a value forgets: the order and the
repetitions of members, and the places of numbers out of range and of strings whose escapes pair
with no character. What a document means is decided where it is used: a member that nobody asks for
may hold what no value can.

## Main definitions

* `GraphOffload.Json.Literal` : the digits of a number, as written.
* `GraphOffload.Json.Document` : a JSON text after reading.
* `GraphOffload.Json.Document.read` : reads a text, which may hold blanks around the document.
* `GraphOffload.Json.Document.value?` : the value of a document, if every number is in range, every
  string is text and no more containers than allowed are nested.
* `GraphOffload.Json.toDocument` : the document of a value.
-/

namespace GraphOffload.Json

/-! ### Numbers as written -/

/-- The exponent of a number, as written. -/
structure Exponent where
  negative : Bool
  digits : List Nat
  deriving DecidableEq

/-- The digits of a number, as written. -/
structure Literal where
  negative : Bool
  digits : List Nat
  /-- The digits after the point; none if there is no point. -/
  fraction : List Nat
  exponent : Option Exponent
  deriving DecidableEq

/-- A natural number from its digits, the highest first. -/
def natOfDigits (digits : List Nat) : Nat :=
  digits.foldl (fun n digit => 10 * n + digit) 0

namespace Literal

/-- Takes digits into a significand while it stays below `2 ^ 64`: the significand, and the digits
that no longer fit. -/
def accumulate : Nat → List Nat → Nat × List Nat
  | significand, [] => (significand, [])
  | significand, digit :: rest =>
    if significand * 10 + digit < UInt64.size then accumulate (significand * 10 + digit) rest
    else (significand, digit :: rest)

/-- The number that the digits stand for, if it is in range. Without point and exponent it is whole
when it fits; `-0` and all others are doubles, made from the digits that fit 64 bits. -/
def number? (literal : Literal) : Option Number :=
  let (whole, wholeLeft) := accumulate 0 literal.digits
  let (significand, fractionLeft) := accumulate whole literal.fraction
  let kept := literal.fraction.length - fractionLeft.length
  let shift : Int := match literal.exponent with
    | none => 0
    | some exponent =>
      if exponent.negative then -(natOfDigits exponent.digits) else natOfDigits exponent.digits
  let signed (bits : UInt64) : Number :=
    .float (if literal.negative then bits ||| Binary64.signBit else bits)
  let isWhole := literal.fraction.isEmpty && literal.exponent.isNone && wholeLeft.isEmpty
  if isWhole && !literal.negative then some (.whole whole)
  else if isWhole && 0 < whole && whole ≤ UInt64.size / 2 then some (.whole (-whole))
  else (Binary64.scaled significand (wholeLeft.length - kept + shift)).map signed

end Literal

/-! ### Documents -/

/-- A JSON text after reading. A number is absent where it is out of range, and a string where an
escape pairs with no character. -/
inductive Document
  | null
  | bool (value : Bool)
  | number (value : Option Number)
  | string (text : Option String)
  | array (items : List Document)
  | object (members : List (Option String × Document))

instance : Inhabited Document := ⟨.null⟩

namespace Document

/-! ### Reading -/

/-- Blanks between the parts of a document. -/
def isBlank (c : Char) : Bool :=
  c = ' ' || c = '\n' || c = '\t' || c = '\r'

/-- The text without the blanks it starts with. -/
def skipBlanks (chars : List Char) : List Char :=
  chars.dropWhile isBlank

/-- The value of a hexadecimal digit. -/
def hexValue? (c : Char) : Option Nat :=
  if '0' ≤ c ∧ c ≤ '9' then some (c.toNat - 48)
  else if 'a' ≤ c ∧ c ≤ 'f' then some (c.toNat - 87)
  else if 'A' ≤ c ∧ c ≤ 'F' then some (c.toNat - 55)
  else none

/-- The 16-bit unit written as four hexadecimal digits, and what follows. -/
def readUnit? : List Char → Option (Nat × List Char)
  | a :: b :: c :: d :: rest => do
    let a ← hexValue? a
    let b ← hexValue? b
    let c ← hexValue? c
    let d ← hexValue? d
    return (((a * 16 + b) * 16 + c) * 16 + d, rest)
  | _ => none

/-- The character of a one-letter escape. -/
def shortEscape? (c : Char) : Option Char :=
  if c = '"' then some '"'
  else if c = '\\' then some '\\'
  else if c = '/' then some '/'
  else if c = 'b' then some (Char.ofNat 8)
  else if c = 'f' then some (Char.ofNat 12)
  else if c = 'n' then some '\n'
  else if c = 'r' then some '\r'
  else if c = 't' then some '\t'
  else none

/-- One piece of a quoted string: a character, or a 16-bit unit written as an escape. -/
inductive Piece
  | char (c : Char)
  | unit (value : Nat)

/-- The pieces of a quoted string up to its closing quote, and what follows. Each step takes at
least one character, so the length of the text is fuel enough. -/
def readPieces? : Nat → List Char → Option (List Piece × List Char)
  | 0, _ => none
  | fuel + 1, chars =>
    match chars with
    | [] => none
    | '"' :: rest => some ([], rest)
    | '\\' :: 'u' :: rest => do
      let (value, rest) ← readUnit? rest
      let (pieces, rest) ← readPieces? fuel rest
      return (.unit value :: pieces, rest)
    | '\\' :: c :: rest => do
      let c ← shortEscape? c
      let (pieces, rest) ← readPieces? fuel rest
      return (.char c :: pieces, rest)
    | c :: rest =>
      if c.toNat < 32 then none else do
        let (pieces, rest) ← readPieces? fuel rest
        return (.char c :: pieces, rest)

/-- The characters of the pieces; absent if a surrogate has no partner. -/
def joinPieces? : List Piece → Option (List Char)
  | [] => some []
  | .char c :: rest => do return c :: (← joinPieces? rest)
  | .unit high :: .unit low :: rest =>
    if 0xD800 ≤ high ∧ high < 0xDC00 then
      if 0xDC00 ≤ low ∧ low < 0xE000 then do
        let c := Char.ofNat (0x10000 + (high - 0xD800) * 0x400 + (low - 0xDC00))
        return c :: (← joinPieces? rest)
      else none
    else if 0xDC00 ≤ high ∧ high < 0xE000 then none
    else do return Char.ofNat high :: (← joinPieces? (.unit low :: rest))
  | .unit value :: rest =>
    if 0xD800 ≤ value ∧ value < 0xE000 then none
    else do return Char.ofNat value :: (← joinPieces? rest)

/-- The string that follows an opening quote, and what follows it. -/
def readString? (chars : List Char) : Option (Option String × List Char) := do
  let (pieces, rest) ← readPieces? (chars.length + 1) chars
  return ((joinPieces? pieces).map String.ofList, rest)

/-- The digits that a text starts with, and what follows. -/
def readDigits (chars : List Char) : List Nat × List Char :=
  ((chars.takeWhile Char.isDigit).map fun c => c.toNat - 48, chars.dropWhile Char.isDigit)

/-- The digits after a point, none without one, and what follows; a point needs a digit. -/
def readFraction? : List Char → Option (List Nat × List Char)
  | '.' :: rest =>
    let (digits, rest) := readDigits rest
    if digits.isEmpty then none else some (digits, rest)
  | chars => some ([], chars)

/-- The exponent, if there is one, and what follows; an exponent needs a digit. -/
def readExponent? (chars : List Char) : Option (Option Exponent × List Char) :=
  match chars with
  | c :: rest =>
    if c = 'e' ∨ c = 'E' then
      let (negative, rest) := match rest with
        | '+' :: rest => (false, rest)
        | '-' :: rest => (true, rest)
        | _ => (false, rest)
      let (digits, rest) := readDigits rest
      if digits.isEmpty then none else some (some ⟨negative, digits⟩, rest)
    else some (none, chars)
  | [] => some (none, [])

/-- The number that a text starts with, and what follows. No number starts with a superfluous
zero. -/
def readNumber? (chars : List Char) : Option (Literal × List Char) := do
  let (negative, chars) := match chars with
    | '-' :: rest => (true, rest)
    | _ => (false, chars)
  let (digits, rest) := readDigits chars
  if digits.isEmpty ∨ (digits.head? = some 0 ∧ digits.length > 1) then none
  let (fraction, rest) ← readFraction? rest
  let (exponent, rest) ← readExponent? rest
  return (⟨negative, digits, fraction, exponent⟩, rest)

mutual

/-- The document that a text starts with, and what follows. -/
def readValue? : Nat → List Char → Option (Document × List Char)
  | 0, _ => none
  | fuel + 1, chars =>
    match skipBlanks chars with
    | 'n' :: 'u' :: 'l' :: 'l' :: rest => some (.null, rest)
    | 't' :: 'r' :: 'u' :: 'e' :: rest => some (.bool true, rest)
    | 'f' :: 'a' :: 'l' :: 's' :: 'e' :: rest => some (.bool false, rest)
    | '"' :: rest => do
      let (text, rest) ← readString? rest
      return (.string text, rest)
    | '[' :: rest =>
      match skipBlanks rest with
      | ']' :: rest => some (.array [], rest)
      | rest => do
        let (items, rest) ← readItems? fuel rest
        return (.array items, rest)
    | '\x7b' :: rest =>
      match skipBlanks rest with
      | '\x7d' :: rest => some (.object [], rest)
      | rest => do
        let (members, rest) ← readMembers? fuel rest
        return (.object members, rest)
    | rest => do
      let (literal, rest) ← readNumber? rest
      return (.number literal.number?, rest)

/-- The items of an array, at least one, up to the closing bracket, and what follows. -/
def readItems? : Nat → List Char → Option (List Document × List Char)
  | 0, _ => none
  | fuel + 1, chars => do
    let (item, rest) ← readValue? fuel chars
    match skipBlanks rest with
    | ']' :: rest => return ([item], rest)
    | ',' :: rest =>
      let (items, rest) ← readItems? fuel rest
      return (item :: items, rest)
    | _ => none

/-- The members of an object, at least one, up to the closing bracket, and what follows. -/
def readMembers? : Nat → List Char → Option (List (Option String × Document) × List Char)
  | 0, _ => none
  | fuel + 1, chars =>
    match skipBlanks chars with
    | '"' :: rest => do
      let (key, rest) ← readString? rest
      match skipBlanks rest with
      | ':' :: rest =>
        let (value, rest) ← readValue? fuel rest
        match skipBlanks rest with
        | '\x7d' :: rest => return ([(key, value)], rest)
        | ',' :: rest =>
          let (members, rest) ← readMembers? fuel rest
          return ((key, value) :: members, rest)
        | _ => none
      | _ => none
    | _ => none

end

/-- Reads a whole text: one document with blanks around it. Each level of nesting takes at least one
character, so twice the length of the text is fuel enough. -/
def read (text : String) : Option Document := do
  let chars := text.toList
  let (document, rest) ← readValue? (2 * chars.length + 2) chars
  if (skipBlanks rest).isEmpty then some document else none

/-! ### Meaning -/

/-- A bound on how many containers may be nested; `none` is no bound. -/
abbrev Depth := Option Nat

/-- The bound inside one more container, if there may be one. -/
def Depth.enter : Depth → Option Depth
  | none => some none
  | some 0 => none
  | some (n + 1) => some (some n)

mutual

/-- The value of a document. -/
def value? (depth : Depth) : Document → Option Json
  | .null => some .null
  | .bool value => some (.bool value)
  | .number value => value.map .number
  | .string text => text.map .string
  | .array items => do return .array (← itemValues? (← depth.enter) items)
  | .object members => do return .ofMembers (← memberValues? (← depth.enter) members)

/-- The values of the items of an array. -/
def itemValues? (depth : Depth) : List Document → Option (List Json)
  | [] => some []
  | item :: rest => do return (← value? depth item) :: (← itemValues? depth rest)

/-- The values of the members of an object. -/
def memberValues? (depth : Depth) :
    List (Option String × Document) → Option (List (String × Json))
  | [] => some []
  | (key, value) :: rest => do
    let key ← key
    return (key, ← value? depth value) :: (← memberValues? depth rest)

end

/-- How many containers a text may nest. -/
def textDepth : Depth := some 127

end Document

/-! ### Values as documents -/

mutual

/-- The document of a value. -/
def toDocument : Json → Document
  | .null => .null
  | .bool value => .bool value
  | .number value => .number (some value)
  | .string text => .string (some text)
  | .array items => .array (itemDocuments items)
  | .object members => .object (memberDocuments members)

/-- The documents of the items of an array. -/
def itemDocuments : List Json → List Document
  | [] => []
  | item :: rest => toDocument item :: itemDocuments rest

/-- The documents of the members of an object. -/
def memberDocuments : List (String × Json) → List (Option String × Document)
  | [] => []
  | (key, value) :: rest => (some key, toDocument value) :: memberDocuments rest

end

/-- The value of a whole text. -/
def read (text : String) : Option Json := do
  (← Document.read text).value? Document.textDepth

end GraphOffload.Json

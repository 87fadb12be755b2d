import GraphOffload.Json.Document
import GraphOffload.Toml.Value

/-!
# Scalars of TOML documents

Strings, numbers, dates and times, as they are written in a TOML document.

## Main definitions

* `GraphOffload.Toml.readString?` : reads a string in one of its four spellings.
* `GraphOffload.Toml.readNumber?` : reads a whole number or a float.
* `GraphOffload.Toml.readMoment?` : reads a date, a time of day, or both.
-/

namespace GraphOffload.Toml

/-! ### Characters -/

/-- Blanks inside a line. -/
def isGap (c : Char) : Bool := c = ' ' || c = '\t'

/-- The text without the blanks it starts with. -/
def skipGap (chars : List Char) : List Char := chars.dropWhile isGap

/-- Characters that may stand in comments and strings: all but control characters, tab excepted. -/
def isPrintable (c : Char) : Bool := c = '\t' || (32 ≤ c.toNat && c.toNat ≠ 127)

/-- What follows a line break, if the text starts with one. -/
def readBreak? : List Char → Option (List Char)
  | '\n' :: rest => some rest
  | '\r' :: '\n' :: rest => some rest
  | _ => none

/-! ### Strings -/

/-- The character of a code in hexadecimal digits, as many as asked for, and what follows. -/
def readCode? (width : Nat) (chars : List Char) : Option (Char × List Char) := do
  let digits ← (chars.take width).mapM Json.Document.hexValue?
  let code := digits.foldl (fun code digit => 16 * code + digit) 0
  if h : digits.length = width ∧ code.isValidChar then
    return (Char.ofNatAux code h.2, chars.drop width)
  else none

/-- The character of an escape, from what follows the backslash; and what follows it. -/
def readEscape? : List Char → Option (Char × List Char)
  | 'u' :: rest => readCode? 4 rest
  | 'U' :: rest => readCode? 8 rest
  | 'b' :: rest => some (Char.ofNat 8, rest)
  | 't' :: rest => some ('\t', rest)
  | 'n' :: rest => some ('\n', rest)
  | 'f' :: rest => some (Char.ofNat 12, rest)
  | 'r' :: rest => some ('\r', rest)
  | '"' :: rest => some ('"', rest)
  | '\\' :: rest => some ('\\', rest)
  | _ => none

/-- The characters of a quoted string up to its closing quote, and what follows. -/
def readQuoted? : Nat → List Char → Option (List Char × List Char)
  | 0, _ => none
  | fuel + 1, chars =>
    match chars with
    | [] => none
    | '"' :: rest => some ([], rest)
    | '\\' :: rest => do
      let (c, rest) ← readEscape? rest
      let (text, rest) ← readQuoted? fuel rest
      return (c :: text, rest)
    | c :: rest =>
      if isPrintable c then do
        let (text, rest) ← readQuoted? fuel rest
        return (c :: text, rest)
      else none

/-- The characters of a literal string up to its closing apostrophe, and what follows. -/
def readLiteral? (chars : List Char) : Option (List Char × List Char) :=
  let (text, rest) := chars.span fun c => isPrintable c && c ≠ '\x27'
  match rest with
  | '\x27' :: rest => some (text, rest)
  | _ => none

/-- What follows blanks and line breaks. -/
def skipLines (chars : List Char) : List Char :=
  match chars with
  | [] => []
  | '\n' :: rest => skipLines rest
  | '\r' :: '\n' :: rest => skipLines rest
  | c :: rest => if isGap c then skipLines rest else c :: rest

/-- The characters of a string over several lines, up to its closing marks, and what follows. Up to
two marks may stand right before the closing ones. A backslash at the end of a line joins lines; no
other escape is known where `escapes` is false. -/
def readLong? (mark : Char) (escapes : Bool) : Nat → List Char → Option (List Char × List Char)
  | 0, _ => none
  | fuel + 1, chars =>
    match chars with
    | [] => none
    | c :: rest =>
      if c = mark then
        let marks := (chars.takeWhile (· = mark)).length
        if 3 ≤ marks then
          let kept := min (marks - 3) 2
          some (List.replicate kept mark, chars.drop (kept + 3))
        else do
          let (text, rest) ← readLong? mark escapes fuel rest
          return (c :: text, rest)
      else if escapes ∧ c = '\\' then
        match readBreak? (skipGap rest) with
        | some rest => readLong? mark escapes fuel (skipLines rest)
        | none => do
          let (c, rest) ← readEscape? rest
          let (text, rest) ← readLong? mark escapes fuel rest
          return (c :: text, rest)
      else match readBreak? chars with
        | some rest => do
          let (text, rest) ← readLong? mark escapes fuel rest
          return ('\n' :: text, rest)
        | none =>
          if isPrintable c then do
            let (text, rest) ← readLong? mark escapes fuel rest
            return (c :: text, rest)
          else none

/-- A string over several lines from what follows its opening marks; a line break right after them
does not count. -/
def readBlock? (mark : Char) (escapes : Bool) (chars : List Char) : Option (List Char × List Char) :=
  let body := (readBreak? chars).getD chars
  readLong? mark escapes (body.length + 1) body

/-- The string that a text starts with, in one of its four spellings, and what follows. -/
def readString? : List Char → Option (String × List Char)
  | '"' :: '"' :: '"' :: rest => do
    let (text, rest) ← readBlock? '"' true rest
    return (String.ofList text, rest)
  | '\x27' :: '\x27' :: '\x27' :: rest => do
    let (text, rest) ← readBlock? '\x27' false rest
    return (String.ofList text, rest)
  | '"' :: rest => do
    let (text, rest) ← readQuoted? (rest.length + 1) rest
    return (String.ofList text, rest)
  | '\x27' :: rest => do
    let (text, rest) ← readLiteral? rest
    return (String.ofList text, rest)
  | _ => none

/-! ### Numbers -/

/-- The digits that a text starts with, at least one; single underscores may stand between them. What
follows may not be a loose underscore. -/
def readDigits? (value? : Char → Option Nat) : List Char → Option (List Nat × List Char)
  | [] => none
  | c :: rest => do
    let digit ← value? c
    match rest with
    | [] => return ([digit], [])
    | '_' :: rest => do
      let (digits, rest) ← readDigits? value? rest
      return (digit :: digits, rest)
    | next :: rest =>
      if (value? next).isSome then do
        let (digits, rest) ← readDigits? value? (next :: rest)
        return (digit :: digits, rest)
      else return ([digit], next :: rest)

/-- The value of a digit below a base of at most sixteen. -/
def digitBelow (base : Nat) (c : Char) : Option Nat := do
  let digit ← Json.Document.hexValue? c
  if digit < base then some digit else none

/-- The decimal digits of a whole number, and what follows: a zero, or digits that do not start with
one. -/
def readDecimal? : List Char → Option (List Nat × List Char)
  | '0' :: rest => some ([0], rest)
  | chars => readDigits? (digitBelow 10) chars

/-- The number that digits stand for in a base. -/
def ofDigits (base : Nat) (digits : List Nat) : Nat :=
  digits.foldl (fun n digit => base * n + digit) 0

/-- The sign that a text may start with, and what follows. -/
def readSign : List Char → Bool × List Char
  | '-' :: rest => (true, rest)
  | '+' :: rest => (false, rest)
  | chars => (false, chars)

/-- Whether decimal digits times a power of ten lie above all doubles. -/
def exceedsDoubles (digits : List Nat) (exponent : Int) : Bool :=
  let digits := digits.dropWhile (· = 0)
  let places : Int := digits.length + exponent
  if digits.isEmpty || places < 300 then false
  else if 400 < places then true
  else
    let n := ofDigits 10 digits
    Nat.pow 2 1024 - Nat.pow 2 970 ≤
      if 0 ≤ exponent then n * Nat.pow 10 exponent.toNat else n / Nat.pow 10 exponent.natAbs

/-- The digits after a point, and what follows; none without a point. -/
def readFraction? : List Char → Option (Option (List Nat) × List Char)
  | '.' :: rest => do
    let (digits, rest) ← readDigits? (digitBelow 10) rest
    return (some digits, rest)
  | chars => some (none, chars)

/-- The exponent, and what follows; none without its mark. -/
def readExponent? : List Char → Option (Option Int × List Char)
  | c :: rest =>
    if c = 'e' ∨ c = 'E' then do
      let (negative, rest) := readSign rest
      let (digits, rest) ← readDigits? (digitBelow 10) rest
      let size := ofDigits 10 digits
      return (some (if negative then -size else size), rest)
    else some (none, c :: rest)
  | [] => some (none, [])

/-- The bounds of whole numbers: 64 bits with a sign. -/
def inRange (n : Int) : Bool := -9223372036854775808 ≤ n && n < 9223372036854775808

/-- A whole number in range. -/
def integer? (n : Int) : Option Toml := if inRange n then some (.integer n) else none

/-- The whole number in a base from what follows its mark, and what follows. -/
def readBased? (base : Nat) (chars : List Char) : Option (Toml × List Char) := do
  let (digits, rest) ← readDigits? (digitBelow base) chars
  return (← integer? (ofDigits base digits), rest)

/-- The number that a text starts with, and what follows. A float may not lie above all doubles. -/
def readNumber? (chars : List Char) : Option (Toml × List Char) :=
  match chars with
  | '0' :: 'x' :: rest => readBased? 16 rest
  | '0' :: 'o' :: rest => readBased? 8 rest
  | '0' :: 'b' :: rest => readBased? 2 rest
  | _ =>
    let (negative, unsigned) := readSign chars
    match unsigned with
    | 'i' :: 'n' :: 'f' :: rest => some (.float, rest)
    | 'n' :: 'a' :: 'n' :: rest => some (.float, rest)
    | _ => do
      let (digits, rest) ← readDecimal? unsigned
      let (fraction, rest) ← readFraction? rest
      let (exponent, rest) ← readExponent? rest
      if fraction.isNone ∧ exponent.isNone then
        let n : Int := ofDigits 10 digits
        return (← integer? (if negative then -n else n), rest)
      else
        let places := fraction.getD []
        if !negative && exceedsDoubles (digits ++ places) (exponent.getD 0 - places.length) then none
        else return (.float, rest)

/-! ### Dates and times -/

/-- The number of exactly so many digits, within bounds, and what follows. -/
def readPlaces? (width low high : Nat) (chars : List Char) : Option (Nat × List Char) := do
  let digits ← (chars.take width).mapM (digitBelow 10)
  let n := ofDigits 10 digits
  if digits.length = width ∧ low ≤ n ∧ n ≤ high then some (n, chars.drop width) else none

/-- What follows a mark. -/
def readMark? (mark : Char) : List Char → Option (List Char)
  | c :: rest => if c = mark then some rest else none
  | [] => none

/-- How many days a month has. -/
def monthLength (year month : Nat) : Nat :=
  if month = 2 then (if year % 4 = 0 ∧ (year % 100 ≠ 0 ∨ year % 400 = 0) then 29 else 28)
  else if month = 4 ∨ month = 6 ∨ month = 9 ∨ month = 11 then 30
  else 31

/-- What follows a date. -/
def readDate? (chars : List Char) : Option (List Char) := do
  let (year, rest) ← readPlaces? 4 0 9999 chars
  let (month, rest) ← readPlaces? 2 1 12 (← readMark? '-' rest)
  let (_, rest) ← readPlaces? 2 1 (monthLength year month) (← readMark? '-' rest)
  return rest

/-- What follows a time of day. -/
def readTime? (chars : List Char) : Option (List Char) := do
  let (_, rest) ← readPlaces? 2 0 23 chars
  let (_, rest) ← readPlaces? 2 0 59 (← readMark? ':' rest)
  let (_, rest) ← readPlaces? 2 0 60 (← readMark? ':' rest)
  match rest with
  | '.' :: c :: digits => if c.isDigit then return digits.dropWhile Char.isDigit else return rest
  | _ => return rest

/-- What follows an offset from universal time. -/
def readOffset? (chars : List Char) : Option (List Char) :=
  match chars with
  | c :: rest =>
    if c = 'Z' ∨ c = 'z' then some rest
    else if c = '+' ∨ c = '-' then do
      let (_, rest) ← readPlaces? 2 0 23 rest
      let (_, rest) ← readPlaces? 2 0 59 (← readMark? ':' rest)
      return rest
    else none
  | [] => none

/-- What follows the time of day and the offset that may stand after a date. -/
def readTimeAfterDate? (chars : List Char) : Option (List Char) :=
  match chars with
  | c :: rest =>
    if c = 'T' ∨ c = 't' ∨ c = ' ' then do
      let rest ← readTime? rest
      return (readOffset? rest).getD rest
    else none
  | [] => none

/-- What follows a date, a time of day, or both. -/
def readMoment? (chars : List Char) : Option (List Char) :=
  match readDate? chars with
  | some rest => some ((readTimeAfterDate? rest).getD rest)
  | none => readTime? chars

end GraphOffload.Toml

import GraphOffload.Json.Decode
import GraphOffload.Text.Blank
import GraphOffload.Text.Segments

/-!
# Points in time

A date and a time of day in universal time, written as `2024-01-02T03:04:05.678Z`. Reading also takes
an offset from universal time, blanks between the parts, and seconds of a leap minute.

## Main definitions

* `GraphOffload.Timestamp` : a point in time.
* `GraphOffload.Timestamp.daysOfDate`, `GraphOffload.Timestamp.dateOfDays` : the days since the start
  of 1970 and the date of the Gregorian calendar.
* `GraphOffload.Timestamp.text` : the written form.
* `GraphOffload.Timestamp.parse?` : reads a written form.
-/

namespace GraphOffload

/-- A point in time: whole seconds since the start of 1970 in universal time, and nanoseconds. During
a leap second the nanoseconds run past a whole second. -/
structure Timestamp where
  seconds : Int
  nanoseconds : Nat
  deriving DecidableEq

/-- A date of the Gregorian calendar. -/
structure Date where
  year : Int
  month : Nat
  day : Nat
  deriving DecidableEq

namespace Timestamp

/-! ### Calendar -/

/-- How many seconds a day has. -/
def perDay : Int := 86400

/-- Whether a year has a leap day. -/
def isLeapYear (year : Int) : Bool :=
  year % 4 = 0 && (year % 100 ≠ 0 || year % 400 = 0)

/-- How many days a month has. -/
def monthLength (year : Int) (month : Nat) : Nat :=
  if month = 2 then (if isLeapYear year then 29 else 28)
  else if month = 4 ∨ month = 6 ∨ month = 9 ∨ month = 11 then 30
  else 31

/-- The days from the start of 1970 to a date. Years are counted from March, in cycles of 400. -/
def daysOfDate (date : Date) : Int :=
  let year := if date.month ≤ 2 then date.year - 1 else date.year
  let cycle := year / 400
  let yearOfCycle := year % 400
  let monthFromMarch : Int := (date.month + 9) % 12
  let dayOfYear := (153 * monthFromMarch + 2) / 5 + date.day - 1
  let dayOfCycle := yearOfCycle * 365 + yearOfCycle / 4 - yearOfCycle / 100 + dayOfYear
  cycle * 146097 + dayOfCycle - 719468

/-- The date that lies the given number of days after the start of 1970. -/
def dateOfDays (days : Int) : Date :=
  let shifted := days + 719468
  let cycle := shifted / 146097
  let dayOfCycle := shifted % 146097
  let yearOfCycle :=
    (dayOfCycle - dayOfCycle / 1460 + dayOfCycle / 36524 - dayOfCycle / 146096) / 365
  let dayOfYear := dayOfCycle - (365 * yearOfCycle + yearOfCycle / 4 - yearOfCycle / 100)
  let monthFromMarch := (5 * dayOfYear + 2) / 153
  let day := dayOfYear - (153 * monthFromMarch + 2) / 5 + 1
  let month := if monthFromMarch < 10 then monthFromMarch + 3 else monthFromMarch - 9
  let year := yearOfCycle + cycle * 400
  ⟨if month ≤ 2 then year + 1 else year, month.toNat, day.toNat⟩

/-! ### Writing -/

/-- The decimal digits of a number, with zeros before them up to a width. -/
def padded (width n : Nat) : String :=
  let digits := toString n
  String.ofList (List.replicate (width - digits.length) '0') ++ digits

/-- The text of a year: four digits, and a sign for the years that need one. -/
def yearText (year : Int) : String :=
  if 0 ≤ year ∧ year ≤ 9999 then padded 4 year.toNat
  else (if year < 0 then "-" else "+") ++ padded 4 year.natAbs

/-- The text of the nanoseconds of a second: none, three, six or nine digits, as few as will do. -/
def fractionText (nanoseconds : Nat) : String :=
  if nanoseconds = 0 then ""
  else if nanoseconds % 1000000 = 0 then "." ++ padded 3 (nanoseconds / 1000000)
  else if nanoseconds % 1000 = 0 then "." ++ padded 6 (nanoseconds / 1000)
  else "." ++ padded 9 nanoseconds

/-- The written form. -/
def text (time : Timestamp) : String :=
  let date := dateOfDays (time.seconds / perDay)
  let secondOfDay := (time.seconds % perDay).toNat
  let leap := 1000000000 ≤ time.nanoseconds
  let second := secondOfDay % 60 + if leap then 1 else 0
  let nanoseconds := if leap then time.nanoseconds - 1000000000 else time.nanoseconds
  yearText date.year ++ "-" ++ padded 2 date.month ++ "-" ++ padded 2 date.day ++ "T" ++
    padded 2 (secondOfDay / 3600) ++ ":" ++ padded 2 (secondOfDay / 60 % 60) ++ ":" ++
    padded 2 second ++ fractionText nanoseconds ++ "Z"

/-! ### Reading -/

/-- The digits at the start of a text, at most `limit` of them and at least one, as a number; and what
follows. -/
def readNat? (limit : Nat) (text : List Char) : Option (Nat × List Char) :=
  let digits := (text.take limit).takeWhile Char.isDigit
  if digits.isEmpty then none
  else some (digits.foldl (fun n c => 10 * n + (c.toNat - 48)) 0, text.drop digits.length)

/-- A number after blanks, of at most two digits and within bounds, and what follows. -/
def readField? (low high : Nat) (text : List Char) : Option (Nat × List Char) := do
  let (n, rest) ← readNat? 2 (Text.dropBlanks text)
  if low ≤ n ∧ n ≤ high then some (n, rest) else none

/-- A year after blanks: four digits, or a sign and any number of digits; and what follows. -/
def readYear? (text : List Char) : Option (Int × List Char) :=
  let text := Text.dropBlanks text
  match text with
  | '-' :: rest => (readNat? rest.length rest).map fun (n, rest) => (-n, rest)
  | '+' :: rest => (readNat? rest.length rest).map fun (n, rest) => (n, rest)
  | _ => (readNat? 4 text).map fun (n, rest) => (n, rest)

/-- What follows a mark, which may stand after blanks. -/
def readMark? (mark : Char) (text : List Char) : Option (List Char) :=
  match Text.dropBlanks text with
  | c :: rest => if c = mark then some rest else none
  | [] => none

/-- The nanoseconds after a point, none without one, and what follows. Digits past the ninth are
passed over. -/
def readFraction? (text : List Char) : Option (Nat × List Char) :=
  match text with
  | '.' :: rest => do
    let count := ((rest.take 9).takeWhile Char.isDigit).length
    let (n, rest) ← readNat? 9 rest
    return (n * Nat.pow 10 (9 - count), rest.dropWhile Char.isDigit)
  | _ => some (0, text)

/-- The offset from universal time in seconds, and what follows. -/
def readOffset? (text : List Char) : Option (Int × List Char) :=
  let signed (sign : Int) (text : List Char) : Option (Int × List Char) :=
    match text with
    | a :: b :: rest =>
      if a.isDigit ∧ b.isDigit then
        match rest.dropWhile fun c => c = ':' || Text.isBlank c with
        | c :: d :: rest =>
          if '0' ≤ c ∧ c ≤ '5' ∧ d.isDigit then
            let hours : Int := 10 * (a.toNat - 48) + (b.toNat - 48)
            let minutes : Int := 10 * (c.toNat - 48) + (d.toNat - 48)
            some (sign * (hours * 3600 + minutes * 60), rest)
          else none
        | _ => none
      else none
    | _ => none
  if Text.lower (String.ofList (text.take 3)) = "utc" then some (0, text.drop 3) else
    match text with
    | c :: rest =>
      if c = 'Z' ∨ c = 'z' then some (0, rest)
      else if c = '+' then signed 1 rest
      else if c = '-' ∨ c.toNat = 0x2212 then signed (-1) rest
      else none
    | [] => none

/-- The years that dates may have. -/
def yearInRange (year : Int) : Bool :=
  -262143 ≤ year && year ≤ 262142

/-- Reads a written form. -/
def parse? (text : String) : Option Timestamp := do
  let (year, rest) ← readYear? text.toList
  let rest ← readMark? '-' rest
  let (month, rest) ← readField? 1 12 rest
  let rest ← readMark? '-' rest
  let (day, rest) ← readField? 1 31 rest
  let rest ← match rest with
    | c :: rest => if c = 'T' ∨ c = 't' ∨ c = ' ' then some rest else none
    | [] => none
  let (hour, rest) ← readField? 0 23 rest
  let rest ← readMark? ':' rest
  let (minute, rest) ← readField? 0 59 rest
  let rest ← readMark? ':' rest
  let (second, rest) ← readField? 0 60 rest
  let (nanoseconds, rest) ← readFraction? rest
  let (offset, rest) ← readOffset? (Text.dropBlanks rest)
  if (Text.dropBlanks rest).isEmpty ∧ yearInRange year ∧ day ≤ monthLength year month ∧
      offset.natAbs < 86400 then
    let leap := second = 60
    let local_ := daysOfDate ⟨year, month, day⟩ * perDay +
      (hour * 3600 + minute * 60 + if leap then 59 else second : Nat)
    return ⟨local_ - offset, if leap then nanoseconds + 1000000000 else nanoseconds⟩
  else none

/-- The point in time as stored. -/
def toJson (time : Timestamp) : Json := .string time.text

/-- Reads a stored point in time. -/
def decode : Json.Decoder Timestamp := fun depth document => do
  parse? (← Json.Decoder.text depth document)

end Timestamp

end GraphOffload

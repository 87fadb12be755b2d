import GraphOffload.Toml.Scalar
import GraphOffload.Toml.Table

/-!
# TOML texts

A TOML text is read line by line: a key with its value, or a header.

## Main definitions

* `GraphOffload.Toml.readValue?` : reads a value, which may hold others.
* `GraphOffload.Toml.readLines?` : the lines of a text that say something.
* `GraphOffload.Toml.read` : the members of the table that a text is.
-/

namespace GraphOffload.Toml

/-! ### Keys -/

/-- Characters of a key without quotes. -/
def isBareKey (c : Char) : Bool := c.isAlphanum || c = '-' || c = '_'

/-- One part of a key, and what follows. -/
def readKeyPart? (chars : List Char) : Option (String × List Char) :=
  match chars with
  | '"' :: rest => do
    let (text, rest) ← readQuoted? (rest.length + 1) rest
    return (String.ofList text, rest)
  | '\x27' :: rest => do
    let (text, rest) ← readLiteral? rest
    return (String.ofList text, rest)
  | _ =>
    let (text, rest) := chars.span isBareKey
    if text.isEmpty then none else some (String.ofList text, rest)

/-- The parts of a key with points between them, and what follows; blanks may stand around each
part. -/
def readKeyParts? : Nat → List Char → Option (List String × List Char)
  | 0, _ => none
  | fuel + 1, chars => do
    let (part, rest) ← readKeyPart? (skipGap chars)
    match skipGap rest with
    | '.' :: rest =>
      let (parts, rest) ← readKeyParts? fuel rest
      return (part :: parts, rest)
    | rest => return ([part], rest)

/-- How many containers may be nested, and how many parts a key may have. -/
def nestingLimit : Nat := 80

/-- A key, its last part apart from the others, and what follows. -/
def readKey? (chars : List Char) : Option ((List String × String) × List Char) := do
  let (parts, rest) ← readKeyParts? (chars.length + 1) chars
  if parts.length < nestingLimit then return ((parts.dropLast, ← parts.getLast?), rest) else none

/-! ### Values -/

/-- What follows a comment. -/
def skipComment (chars : List Char) : List Char := chars.dropWhile isPrintable

/-- What follows blanks, line breaks and comments between the items of an array. -/
def skipFiller : Nat → List Char → List Char
  | 0, chars => chars
  | fuel + 1, chars =>
    match chars with
    | '#' :: rest => match readBreak? (skipComment rest) with
      | some rest => skipFiller fuel rest
      | none => chars
    | c :: rest =>
      if isGap c then skipFiller fuel rest
      else match readBreak? chars with
        | some rest => skipFiller fuel rest
        | none => chars
    | [] => []

/-- The filler at the start of a text skipped whole. -/
def skipAllFiller (chars : List Char) : List Char := skipFiller chars.length chars

/-- The table of pairs that stand in one line. -/
def tableOfPairs? (pairs : List Pair) : Option Toml := do
  return .table (entriesToMembers (← Entries.addPairs pairs []))

mutual

/-- The value that a text starts with, and what follows; at most `depth` containers may be nested. -/
def readValue? : Nat → Nat → List Char → Option (Toml × List Char)
  | 0, _, _ => none
  | fuel + 1, depth, chars =>
    match chars with
    | '"' :: _ | '\x27' :: _ => do
      let (text, rest) ← readString? chars
      return (.string text, rest)
    | '[' :: rest =>
      if depth ≤ 1 then none else do
        let (items, rest) ← readItems? fuel (depth - 1) (skipAllFiller rest)
        return (.array items, rest)
    | '\x7b' :: rest =>
      if depth ≤ 1 then none else
        match skipGap rest with
        | '\x7d' :: rest => some (.table [], rest)
        | rest => do
          let (pairs, rest) ← readPairs? fuel (depth - 1) rest
          return (← tableOfPairs? pairs, rest)
    | 't' :: 'r' :: 'u' :: 'e' :: rest => some (.bool true, rest)
    | 'f' :: 'a' :: 'l' :: 's' :: 'e' :: rest => some (.bool false, rest)
    | _ => match readMoment? chars with
      | some rest => some (.moment, rest)
      | none => readNumber? chars

/-- The items of an array up to the closing bracket, and what follows. -/
def readItems? : Nat → Nat → List Char → Option (List Toml × List Char)
  | 0, _, _ => none
  | fuel + 1, depth, chars =>
    match chars with
    | ']' :: rest => some ([], rest)
    | _ => do
      let (item, rest) ← readValue? fuel depth chars
      match skipAllFiller rest with
      | ']' :: rest => return ([item], rest)
      | ',' :: rest =>
        let (items, rest) ← readItems? fuel depth (skipAllFiller rest)
        return (item :: items, rest)
      | _ => none

/-- The pairs of a table in one line, at least one, up to the closing bracket, and what follows. -/
def readPairs? : Nat → Nat → List Char → Option (List Pair × List Char)
  | 0, _, _ => none
  | fuel + 1, depth, chars => do
    let ((path, key), rest) ← readKey? chars
    let rest ← readMark? '=' rest
    let (value, rest) ← readValue? fuel depth (skipGap rest)
    match skipGap rest with
    | '\x7d' :: rest => return ([⟨path, key, value⟩], rest)
    | ',' :: rest =>
      let (pairs, rest) ← readPairs? fuel depth rest
      return (⟨path, key, value⟩ :: pairs, rest)
    | _ => none

end

/-! ### Lines -/

/-- A line that says something. -/
inductive Line
  | pair (pair : Pair)
  | header (kind : HeaderKind) (path : List String) (key : String)

/-- What follows the end of a line, before which a comment may stand. -/
def readLineEnd? (chars : List Char) : Option (List Char) :=
  let rest := match skipGap chars with
    | '#' :: rest => skipComment rest
    | rest => rest
  if rest.isEmpty then some [] else readBreak? rest

/-- One line, and what follows. -/
def readLine? (chars : List Char) : Option (Line × List Char) :=
  match chars with
  | '[' :: '[' :: rest => do
    let ((path, key), rest) ← readKey? rest
    let rest ← readLineEnd? (← readMark? ']' (← readMark? ']' rest))
    return (.header .repeated path key, rest)
  | '[' :: rest => do
    let ((path, key), rest) ← readKey? rest
    let rest ← readLineEnd? (← readMark? ']' rest)
    return (.header .single path key, rest)
  | _ => do
    let ((path, key), rest) ← readKey? chars
    let rest := skipGap (← readMark? '=' rest)
    let (value, rest) ← readValue? (2 * rest.length + 2) nestingLimit rest
    return (.pair ⟨path, key, value⟩, ← readLineEnd? rest)

/-- The lines of a text that say something. -/
def readLines? : Nat → List Char → Option (List Line)
  | 0, _ => none
  | fuel + 1, chars =>
    match skipGap chars with
    | [] => some []
    | '#' :: rest => do readLines? fuel (← readLineEnd? ('#' :: rest))
    | rest => match readBreak? rest with
      | some rest => readLines? fuel rest
      | none => do
        let (line, rest) ← readLine? rest
        return line :: (← readLines? fuel rest)

/-! ### Documents -/

/-- The pairs before the first header, and what follows each header. -/
def group : List Line → List Pair × List Section
  | [] => ([], [])
  | .pair pair :: rest =>
    let (pairs, sections) := group rest
    (pair :: pairs, sections)
  | .header kind path key :: rest =>
    let (pairs, sections) := group rest
    ([], ⟨kind, path, key, pairs⟩ :: sections)

/-- The members of the table that a text is, if it is one. The text may start with a byte-order
mark. -/
def read (text : String) : Option (List (String × Toml)) := do
  let chars := match text.toList with
    | '\uFEFF' :: rest => rest
    | chars => chars
  let (pairs, sections) := group (← readLines? (chars.length + 1) chars)
  let root ← Entries.addPairs pairs []
  let entries ← sections.foldlM (fun entries part => Entries.addSection part entries) root
  return entriesToMembers entries

end GraphOffload.Toml

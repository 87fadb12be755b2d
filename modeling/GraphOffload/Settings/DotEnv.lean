import GraphOffload.Settings.Environment
import GraphOffload.Text.Blank

/-!
# Files with variables

A file may set variables that the environment lacks, one a line: a name, an equals sign and a value. A
value may stand in quotes, over several lines if need be, and may take in other variables. What follows
the first line that makes no sense is passed over.

## Main definitions

* `GraphOffload.DotEnv.lines` : the lines of a file, with line ends inside quotes.
* `GraphOffload.DotEnv.readLine` : the variable that a line sets.
* `GraphOffload.DotEnv.parse` : the variables that a file sets.
* `GraphOffload.Environment.extend` : the environment with the variables of a file.
-/

namespace GraphOffload.DotEnv

/-! ### Lines -/

/-- What the next character of a line belongs to. -/
inductive Context
  | plain
  /-- The character after a blank. -/
  | blank
  /-- The character after a backslash. -/
  | escape
  | quoted (quote : Char)
  | quotedEscape (quote : Char)
  /-- The rest of a line that only people read. -/
  | comment
  deriving DecidableEq

/-- The context outside quotes after a character. -/
def Context.afterPlain (c : Char) : Context :=
  if c = '\\' then escape else if c = '"' ∨ c = '\x27' then quoted c else plain

/-- The context after a character. -/
def Context.after (context : Context) (c : Char) : Context :=
  match context with
  | plain => if Text.isBlank c ∧ c ≠ '\n' ∧ c ≠ '\r' then blank else afterPlain c
  | blank => if c = '#' then comment else afterPlain c
  | escape => plain
  | quoted quote => if c = '\\' then quotedEscape quote else if c = quote then plain else quoted quote
  | quotedEscape quote => quoted quote
  | comment => comment

/-- The characters of a physical line before a comment, and the context after the line. -/
def scan (context : Context) : List Char → List Char × Context
  | [] => ([], context)
  | c :: rest =>
    match context.after c with
    | .comment => ([], .comment)
    | next =>
      let (chars, last) := scan next rest
      (c :: chars, last)

/-- The physical lines of a file, each with its line end. -/
def physicalLines : List Char → List (List Char)
  | [] => []
  | c :: rest =>
    match physicalLines rest with
    | [] => [[c]]
    | line :: lines => if c = '\n' then [c] :: line :: lines else (c :: line) :: lines

/-- Whether a line is a comment from its beginning on. -/
def isComment (line : List Char) : Bool := (Text.dropBlanks line).head? = some '#'

/-- The lines of a file; a line goes on while a quote is open. The last one is absent if it does not
end. -/
def joinLines (held : List Char) (context : Context) : List (List Char) → List (Option (List Char))
  | [] => if context = .plain then [] else [none]
  | line :: rest =>
    if isComment (held ++ line) then joinLines [] .plain rest
    else
      let (chars, last) := scan context line
      if last = .plain ∨ last = .comment then some (held ++ chars) :: joinLines [] .plain rest
      else joinLines (held ++ chars) last rest

/-- The lines of a file. -/
def lines (text : List Char) : List (Option (List Char)) := joinLines [] .plain (physicalLines text)

/-! ### Values -/

/-- A piece of a value. -/
inductive Piece
  | char (c : Char)
  /-- The value of another variable. -/
  | reference (name : String)

/-- How the next character of a value is read. -/
inductive Mode
  | plain (inQuotes : Bool)
  /-- After a backslash. -/
  | escape (inQuotes : Bool)
  /-- In single quotes, where every character stands for itself. -/
  | literal
  /-- In the name of a variable. -/
  | name (inQuotes : Bool) (name : List Char)
  /-- In the name of a variable in braces. -/
  | braced (inQuotes : Bool) (name : List Char)
  /-- After the value, where only a comment may follow. -/
  | finished

/-- The character that a backslash and a character stand for. -/
def unescape? (c : Char) : Option Char :=
  if c = 'n' then some '\n' else if "\\\x27\"$ ".toList.contains c then some c else none

/-- The pieces of a value. -/
def readValue : Mode → List Char → Option (List Piece)
  | .plain inQuotes, [] => if inQuotes then none else some []
  | .escape inQuotes, [] => if inQuotes then none else some []
  | .literal, [] => none
  | .name inQuotes name, [] => if inQuotes then none else some [.reference (String.ofList name)]
  | .braced .., [] => none
  | .finished, [] => some []
  | .finished, c :: rest =>
    if c = ' ' ∨ c = '\t' then readValue .finished rest
    else if c = '#' then some []
    else none
  | .escape inQuotes, c :: rest => do
    let c ← unescape? c
    return .char c :: (← readValue (.plain inQuotes) rest)
  | .literal, c :: rest =>
    if c = '\x27' then readValue (.plain false) rest
    else (readValue .literal rest).map (.char c :: ·)
  | .name inQuotes name, c :: rest =>
    if c.isAlphanum then readValue (.name inQuotes (name ++ [c])) rest
    else if c = '\x7b' ∧ name = [] then readValue (.braced inQuotes []) rest
    else if c = '$' then
      (readValue (.name inQuotes []) rest).map (.reference (String.ofList name) :: ·)
    else
      (readValue (.plain inQuotes) rest).map (.reference (String.ofList name) :: .char c :: ·)
  | .braced inQuotes name, c :: rest =>
    if c = '\x7d' then
      (readValue (.plain inQuotes) rest).map (.reference (String.ofList name) :: ·)
    else readValue (.braced inQuotes (name ++ [c])) rest
  | .plain inQuotes, c :: rest =>
    if c = '$' then readValue (.name inQuotes []) rest
    else if c = '\\' then readValue (.escape inQuotes) rest
    else if c = '"' then readValue (.plain (!inQuotes)) rest
    else if inQuotes then (readValue (.plain true) rest).map (.char c :: ·)
    else if c = '\x27' then readValue .literal rest
    else if c = ' ' ∨ c = '\t' then readValue .finished rest
    else (readValue (.plain false) rest).map (.char c :: ·)

/-! ### Variables -/

/-- A variable that a file sets. -/
structure Entry where
  name : String
  value : List Piece

/-- The name that a text begins with, and what follows it and the blanks after it. -/
def readName (text : List Char) : Option (List Char × List Char) :=
  match text.head? with
  | none => none
  | some c =>
    if c.isAlpha ∨ c = '_' then
      let (name, rest) := text.span fun c => c.isAlphanum || c = '_' || c = '.'
      some (name, Text.dropBlanks rest)
    else none

/-- The name of a variable, before which the word `export` may stand, and what follows the equals
sign. -/
def readKey (text : List Char) : Option (List Char × List Char) := do
  let (name, rest) ← readName text
  match rest with
  | '=' :: value => return (name, value)
  | _ =>
    if name = "export".toList then
      match ← readName rest with
      | (name, '=' :: value) => return (name, value)
      | _ => none
    else none

/-- The variable that a line sets, if it sets one; absent if the line makes no sense. -/
def readLine (line : List Char) : Option (Option Entry) := do
  let text := Text.dropBlanks (Text.dropBlanks line.reverse).reverse
  if text.isEmpty ∨ text.head? = some '#' then return none
  let (name, value) ← readKey text
  let value := Text.dropBlanks value
  let pieces ←
    if value.isEmpty ∨ value.head? = some '#' then some []
    else readValue (.plain false) value
  return some ⟨String.ofList name, pieces⟩

/-- The variables of lines, up to the first line that makes no sense. -/
def readLines : List (Option (List Char)) → List Entry
  | [] => []
  | line :: rest =>
    match line.bind readLine with
    | none => []
    | some none => readLines rest
    | some (some entry) => entry :: readLines rest

/-- The text that a file begins with, without a byte order mark. -/
def leadingText (content : Bytes) : List Char :=
  let chars := ((Utf8.pieces content).takeWhile Option.isSome).filterMap id
  if chars.head? = some '\uFEFF' then chars.drop 1 else chars

/-- The variables that a file sets. A line that is no text makes no sense. -/
def parse (content : Bytes) : List Entry :=
  let text := leadingText content
  if (Utf8.text? content).isSome then readLines (lines text)
  else readLines (lines (text.reverse.dropWhile (· ≠ '\n')).reverse)

/-- The variables that the entries of a file set or take in. -/
def names (entries : List Entry) : List String :=
  entries.flatMap fun entry => entry.name :: entry.value.filterMap fun
    | .char _ => none
    | .reference name => some name

end GraphOffload.DotEnv

namespace GraphOffload.Environment

/-- The text of a value under an environment; a variable that is not there stands for nothing. -/
def valueOf (environment : Environment) (pieces : List DotEnv.Piece) : String :=
  String.join (pieces.map fun
    | .char c => c.toString
    | .reference name => environment.text name "")

/-- The environment with the variables of a file that it lacks. -/
def extend (environment : Environment) (entries : List DotEnv.Entry) : Environment :=
  entries.foldl (fun environment entry =>
    if (environment.text? entry.name).isSome then environment
    else (entry.name, Utf8.bytes (environment.valueOf entry.value)) :: environment) environment

end GraphOffload.Environment

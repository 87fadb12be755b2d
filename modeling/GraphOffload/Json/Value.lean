import GraphOffload.Number.Binary64

/-!
# JSON values

## Main definitions

* `GraphOffload.Json` : a JSON value. Whole numbers between `-2 ^ 63` and `2 ^ 64 - 1` are kept
  exactly and all others as finite doubles. The members of an object are in ascending order of
  their keys, each key once.
* `GraphOffload.Json.Members.insert` : adds a member, replacing the one of the same key.
* `GraphOffload.Json.render`, `GraphOffload.Json.pretty` : the text of a value on one line, and
  indented by two spaces a level.
-/

namespace GraphOffload

/-- A JSON number: whole, or a finite double given by its bits. -/
inductive Json.Number
  | whole (value : Int)
  | float (bits : UInt64)
  deriving DecidableEq

/-- A JSON value. -/
inductive Json
  | null
  | bool (value : Bool)
  | number (value : Json.Number)
  | string (text : String)
  | array (items : List Json)
  | object (members : List (String × Json))

namespace Json

/-- The members of an object. -/
abbrev Members := List (String × Json)

namespace Members

/-- Adds a member in the order of the keys; a member of the same key gives way. -/
def insert (key : String) (value : Json) : Members → Members
  | [] => [(key, value)]
  | (other, held) :: rest =>
    if key < other then (key, value) :: (other, held) :: rest
    else if key = other then (key, value) :: rest
    else (other, held) :: insert key value rest

/-- The members in ascending order of the keys; of several members with one key the last stays. -/
def ofList (members : List (String × Json)) : Members :=
  members.foldl (fun held member => held.insert member.1 member.2) []

/-- The value of a member, if there is one of that key. -/
def get? (members : Members) (key : String) : Option Json :=
  members.lookup key

end Members

/-- A whole number. -/
def ofNat (n : Nat) : Json := .number (.whole n)

/-- The object with the given members, sorted by key. -/
def ofMembers (members : List (String × Json)) : Json := .object (Members.ofList members)

instance : Inhabited Json := ⟨.null⟩

instance : Coe String Json := ⟨.string⟩

instance : Coe Bool Json := ⟨.bool⟩

/-! ### Text -/

/-- The lower-case hexadecimal digit of a number below sixteen. -/
def hexDigit (n : Nat) : Char :=
  if n < 10 then Char.ofNat (48 + n) else Char.ofNat (87 + n)

/-- One character inside a quoted text: quote, backslash and control characters are escaped. -/
def escape (c : Char) : List Char :=
  if c = '"' then ['\\', '"']
  else if c = '\\' then ['\\', '\\']
  else if c = '\n' then ['\\', 'n']
  else if c = '\r' then ['\\', 'r']
  else if c = '\t' then ['\\', 't']
  else if c.toNat = 8 then ['\\', 'b']
  else if c.toNat = 12 then ['\\', 'f']
  else if c.toNat < 32 then
    ['\\', 'u', '0', '0', hexDigit (c.toNat / 16), hexDigit (c.toNat % 16)]
  else [c]

/-- A text in quotes. -/
def quote (text : String) : String :=
  "\"" ++ String.ofList (text.toList.flatMap escape) ++ "\""

/-- The text of a number. -/
def Number.text : Number → String
  | .whole value => toString value
  | .float bits => Binary64.text bits

mutual

/-- The text of a value, without blanks. -/
def render : Json → String
  | .null => "null"
  | .bool value => if value then "true" else "false"
  | .number value => value.text
  | .string text => quote text
  | .array items => "[" ++ ",".intercalate (renderItems items) ++ "]"
  | .object members => "\x7b" ++ ",".intercalate (renderMembers members) ++ "\x7d"

/-- The texts of the items of an array. -/
def renderItems : List Json → List String
  | [] => []
  | item :: rest => render item :: renderItems rest

/-- The texts of the members of an object. -/
def renderMembers : List (String × Json) → List String
  | [] => []
  | (key, value) :: rest => (quote key ++ ":" ++ render value) :: renderMembers rest

end

/-- A block of lines between two brackets, one line for each item; nothing between them if there
are no items. -/
def block (opening closing : String) (depth : Nat) (lines : List String) : String :=
  if lines.isEmpty then opening ++ closing else
    let indent (n : Nat) : String := String.ofList (List.replicate (2 * n) ' ')
    opening ++ "\n" ++ ",\n".intercalate (lines.map (indent (depth + 1) ++ ·)) ++ "\n" ++
      indent depth ++ closing

mutual

/-- The text of a value at a depth of indentation, one item or member a line. -/
def prettyAt (depth : Nat) : Json → String
  | .null => "null"
  | .bool value => if value then "true" else "false"
  | .number value => value.text
  | .string text => quote text
  | .array items => block "[" "]" depth (prettyItems (depth + 1) items)
  | .object members => block "\x7b" "\x7d" depth (prettyMembers (depth + 1) members)

/-- The indented texts of the items of an array. -/
def prettyItems (depth : Nat) : List Json → List String
  | [] => []
  | item :: rest => prettyAt depth item :: prettyItems depth rest

/-- The indented texts of the members of an object. -/
def prettyMembers (depth : Nat) : List (String × Json) → List String
  | [] => []
  | (key, value) :: rest =>
    (quote key ++ ": " ++ prettyAt depth value) :: prettyMembers depth rest

end

/-- The text of a value over several lines, indented by two spaces a level. -/
def pretty (value : Json) : String := prettyAt 0 value

/-- The text of a status object on several lines, its members in the order given. -/
def prettyInOrder (members : List (String × Json)) : String :=
  block "\x7b" "\x7d" 0 (prettyMembers 1 members)

end Json

end GraphOffload

import GraphOffload.Json.Document

/-!
# Decoding records from JSON

A record is read from an object or from an array. In an object, members that the record does not
have are passed over unread, a field may have several names, and no field may be given twice. In an
array the fields stand in order; fields at the end may be left out, further items may not follow.

## Main definitions

* `GraphOffload.Json.Decoder` : reads a type from a document under a bound on nesting.
* `GraphOffload.Json.Decoder.fields` : the documents of a record's fields.
* `GraphOffload.Json.Decoder.required`, `GraphOffload.Json.Decoder.defaulted`,
  `GraphOffload.Json.Decoder.optional` : what a field holds when it is left out.
* `GraphOffload.Json.Decoder.ofText`, `GraphOffload.Json.Decoder.ofValue` : decoding of a text and of
  a value.
-/

namespace GraphOffload.Json

/-- Reads a type from a document under a bound on nesting; absent if the document has another
form. -/
abbrev Decoder (α : Type) := Document.Depth → Document → Option α

namespace Decoder

variable {α : Type}

/-- A text. -/
def text : Decoder String := fun _ document =>
  match document with
  | .string text => text
  | _ => none

/-- A truth value. -/
def bool : Decoder Bool := fun _ document =>
  match document with
  | .bool value => some value
  | _ => none

/-- A natural number below a bound. A number with a point or an exponent is none. -/
def natBelow (bound : Nat) : Decoder Nat := fun _ document =>
  match document with
  | .number (some (.whole value)) =>
    if 0 ≤ value ∧ value < bound then some value.toNat else none
  | _ => none

/-- A 64-bit size. -/
def word64 : Decoder UInt64 := fun depth document =>
  (natBelow UInt64.size depth document).map .ofNat

/-- A 32-bit count. -/
def word32 : Decoder UInt32 := fun depth document =>
  (natBelow UInt32.size depth document).map .ofNat

/-- Any value. -/
def value : Decoder Json := fun depth document => document.value? depth

/-- The members of an object, whatever they hold. -/
def members : Decoder Members := fun depth document => do
  match ← document.value? depth with
  | .object members => some members
  | _ => none

/-- A value that may be null, which stands for absence. -/
def nullable (decode : Decoder α) : Decoder (Option α) := fun depth document =>
  match document with
  | .null => some none
  | other => (decode depth other).map some

/-- One of several names: as a text, or as an object whose only member has that name and holds
null. -/
def choice (names : List (String × α)) : Decoder α := fun depth document =>
  match document with
  | .string (some name) => names.lookup name
  | .object [(some name, .null)] => do
    let _ ← depth.enter
    names.lookup name
  | _ => none

/-! ### Records -/

/-- The value given to a field among the members of an object: none, one, or `none` if the field
is given twice. -/
def given (names : List String) (members : List (String × Document)) :
    Option (Option Document) :=
  match members.filter fun member => names.contains member.1 with
  | [] => some none
  | [member] => some (some member.2)
  | _ => none

/-- The documents of a record's fields, each known by its names, with the bound inside the
record. -/
def fields (names : List (List String)) :
    Document.Depth → Document → Option (Document.Depth × List (Option Document)) :=
  fun depth document => do
    let inner ← depth.enter
    match document with
    | .object members =>
      let members ← members.mapM fun member => member.1.map (·, member.2)
      return (inner, ← names.mapM (given · members))
    | .array items =>
      if items.length ≤ names.length then
        return (inner, items.map some ++ List.replicate (names.length - items.length) none)
      else none
    | _ => none

/-- A field that must be given. -/
def required (decode : Decoder α) (depth : Document.Depth) (field : Option Document) : Option α :=
  field.bind (decode depth)

/-- A field that has a value of its own when it is left out. -/
def defaulted (decode : Decoder α) (default : α) (depth : Document.Depth)
    (field : Option Document) : Option α :=
  match field with
  | none => some default
  | some document => decode depth document

/-- A field that may be left out or null. -/
def optional (decode : Decoder α) (depth : Document.Depth) (field : Option Document) :
    Option (Option α) :=
  defaulted (nullable decode) none depth field

/-! ### Entry points -/

/-- Decodes a whole text. -/
def ofText (decode : Decoder α) (text : String) : Option α := do
  decode Document.textDepth (← Document.read text)

/-- Decodes a value, however deeply it is nested. -/
def ofValue (decode : Decoder α) (value : Json) : Option α :=
  decode none value.toDocument

end Decoder

end GraphOffload.Json

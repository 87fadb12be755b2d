import GraphOffload.Json.Document

/-!
# Values of TOML documents

## Main definitions

* `GraphOffload.Toml` : a value of a TOML document. Of dates and times nothing is kept.
* `GraphOffload.Toml.toDocument` : the value as a decoder of records reads it.
-/

namespace GraphOffload

/-- A value of a TOML document. -/
inductive Toml
  | string (text : String)
  | integer (value : Int)
  | float
  | bool (value : Bool)
  | moment
  | array (items : List Toml)
  | table (members : List (String × Toml))

namespace Toml

/-- The name of the only member that a date or time shows to a decoder. -/
def momentKey : String := "$__toml_private_datetime"

mutual

/-- The value as a decoder of records reads it: a float is a number that no count can be, and a date
or time is a record with one member of its own. -/
def toDocument : Toml → Json.Document
  | string text => .string (some text)
  | integer value => .number (some (.whole value))
  | float => .number none
  | bool value => .bool value
  | moment => .object [(some momentKey, .null)]
  | array items => .array (itemsToDocuments items)
  | table members => .object (membersToDocuments members)

/-- The items of an array as a decoder reads them. -/
def itemsToDocuments : List Toml → List Json.Document
  | [] => []
  | item :: rest => item.toDocument :: itemsToDocuments rest

/-- The members of a table as a decoder reads them. -/
def membersToDocuments : List (String × Toml) → List (Option String × Json.Document)
  | [] => []
  | (key, value) :: rest => (some key, value.toDocument) :: membersToDocuments rest

end

end Toml

end GraphOffload

import GraphOffload.Text.Segments

/-!
# Paths of stored objects

An object lies under a path of non-empty segments. A key is a text with slashes between the
segments; one slash before and one after them are dropped, and the empty key is the root.

## Main definitions

* `GraphOffload.ObjectPath` : a path of segments.
* `GraphOffload.ObjectPath.parse` : the path of a key.
* `GraphOffload.ObjectPath.text` : the segments with slashes between them.
* `GraphOffload.ObjectPath.Error` : why a key has no path.
-/

namespace GraphOffload

/-- A path of segments; the root has none. -/
structure ObjectPath where
  segments : List String
  deriving DecidableEq

namespace ObjectPath

/-- Why a key has no path. -/
inductive Error
  /-- Two slashes follow each other. -/
  | emptySegment (key : String)
  /-- A segment is `.` or `..`, or holds an ASCII control character. -/
  | badSegment (key segment illegal : String)
  deriving DecidableEq

/-- The text of a refused key. -/
def Error.message : Error → String
  | .emptySegment key => "Path \"" ++ key ++ "\" contained empty path segment"
  | .badSegment key segment illegal =>
    "Error parsing Path \"" ++ key ++ "\": Encountered illegal character sequence \"" ++ illegal ++
      "\" whilst parsing path segment \"" ++ segment ++ "\""

/-- Whether a character is an ASCII control character. -/
def isControl (c : Char) : Bool :=
  c.toNat < 32 || c.toNat = 127

/-- What a segment may not hold: itself if it is `.` or `..`, else its first control character. -/
def illegalPart? (segment : List Char) : Option (List Char) :=
  if segment = ['.'] ∨ segment = ['.', '.'] then some segment
  else (segment.find? isControl).map ([·])

/-- The fault of a segment, if it has one. -/
def segmentError? (key : String) (segment : List Char) : Option Error :=
  if segment.isEmpty then some (.emptySegment key)
  else (illegalPart? segment).map fun illegal =>
    .badSegment key (String.ofList segment) (String.ofList illegal)

/-- The text without the slash it starts with, if it does. -/
def dropLeadingSlash : List Char → List Char
  | '/' :: rest => rest
  | text => text

/-- The text without the slash it ends with, if it does. -/
def dropTrailingSlash (text : List Char) : List Char :=
  if text.getLast? = some '/' then text.dropLast else text

/-- The path of a key, or the fault of its first bad segment. -/
def parse (key : String) : Except Error ObjectPath :=
  match dropLeadingSlash key.toList with
  | [] => .ok ⟨[]⟩
  | stripped =>
    let segments := Text.split '/' (dropTrailingSlash stripped)
    match segments.findSome? (segmentError? key) with
    | some error => .error error
    | none => .ok ⟨segments.map String.ofList⟩

/-- The segments with slashes between them. -/
def text (path : ObjectPath) : String :=
  String.ofList (Text.join '/' (path.segments.map String.toList))

/-- Whether a path lies strictly below another, by whole segments. -/
def isBelow (path parent : ObjectPath) : Bool :=
  parent.segments.isPrefixOf path.segments && parent.segments.length < path.segments.length

end ObjectPath

end GraphOffload

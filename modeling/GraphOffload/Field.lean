import GraphOffload.Json.Decode
import GraphOffload.Text.Segments

/-!
# Vector fields

The field of an index whose vectors go into a graph: how its vectors are compared, which elements
they have, and which engine builds the graph with which parameters.

## Main definitions

* `GraphOffload.Similarity` : how two vectors are compared.
* `GraphOffload.ElementType` : the type of a vector's elements.
* `GraphOffload.VectorField` : a field, with its name, dimension and engine.
-/

namespace GraphOffload

/-! ### Similarity -/

/-- How two vectors are compared. -/
inductive Similarity
  | l2
  | cosine
  | innerProduct
  deriving DecidableEq, Inhabited

namespace Similarity

/-- The name that build services know. -/
def name : Similarity → String
  | .l2 => "l2"
  | .cosine => "cosinesimil"
  | .innerProduct => "innerproduct"

/-- The name in stored settings. -/
def storedName : Similarity → String
  | .l2 => "l2"
  | .cosine => "cosinesimil"
  | .innerProduct => "inner_product"

/-- The similarity of a name in any case, or the lower-case name if it is unknown. -/
def parse (text : String) : Except String Similarity :=
  let lowered := Text.lower text
  if lowered = "l2" then .ok .l2
  else if lowered = "cosinesimil" ∨ lowered = "cosine" then .ok .cosine
  else if lowered = "innerproduct" ∨ lowered = "inner_product" then .ok .innerProduct
  else .error lowered

/-- What is said of an unknown name. -/
def unknownMessage (lowered : String) : String :=
  "unknown space type: " ++ lowered

/-- Reads a stored name. -/
def decode : Json.Decoder Similarity :=
  Json.Decoder.choice
    [("l2", .l2), ("cosinesimil", .cosine), ("inner_product", .innerProduct)]

end Similarity

/-! ### Elements -/

/-- The type of a vector's elements. -/
inductive ElementType
  | float32
  | float16
  | byte
  deriving DecidableEq, Inhabited

namespace ElementType

/-- How many bytes an element takes. -/
def width : ElementType → UInt64
  | .float32 => 4
  | .float16 => 2
  | .byte => 1

/-- The name that build services know. -/
def name : ElementType → String
  | .float32 => "float"
  | .float16 => "half_float"
  | .byte => "byte"

/-- The name in stored settings. -/
def storedName : ElementType → String
  | .float32 => "float32"
  | .float16 => "float16"
  | .byte => "byte"

/-- Reads a stored name. -/
def decode : Json.Decoder ElementType :=
  Json.Decoder.choice [("float32", .float32), ("float16", .float16), ("byte", .byte)]

end ElementType

/-! ### Fields -/

/-- A vector field. -/
structure VectorField where
  name : String
  dimension : UInt64
  similarity : Similarity := .l2
  engine : String := "faiss"
  parameters : Json.Members := []

namespace VectorField

/-- The field with one more engine parameter; a parameter of the same key gives way. -/
def withParameter (field : VectorField) (key : String) (value : Json) : VectorField :=
  { field with parameters := field.parameters.insert key value }

/-- The field as stored. -/
def toJson (field : VectorField) : Json :=
  .ofMembers
    [("name", .string field.name), ("dimension", .ofNat field.dimension.toNat),
      ("space_type", .string field.similarity.storedName), ("engine", .string field.engine),
      ("parameters", .object field.parameters)]

/-- Reads a stored field; all but its name and dimension may be left out. -/
def decode : Json.Decoder VectorField := fun depth document => do
  let (depth, fields) ← Json.Decoder.fields
    [["name"], ["dimension"], ["space_type"], ["engine"], ["parameters"]] depth document
  match fields with
  | [name, dimension, similarity, engine, parameters] =>
    return {
      name := ← Json.Decoder.required Json.Decoder.text depth name
      dimension := ← Json.Decoder.required Json.Decoder.word64 depth dimension
      similarity := ← Json.Decoder.defaulted Similarity.decode .l2 depth similarity
      engine := ← Json.Decoder.defaulted Json.Decoder.text "faiss" depth engine
      parameters := ← Json.Decoder.defaulted Json.Decoder.members [] depth parameters }
  | _ => none

end VectorField

end GraphOffload

import GraphOffload.Bytes
import GraphOffload.Storage.ObjectPath

/-!
# What a store holds

## Main definitions

* `GraphOffload.ObjectMap` : the objects of a store, each under its path.
* `GraphOffload.ObjectMap.get?` : the object under a path, the view by which maps are compared.
* `GraphOffload.ObjectMap.insert`, `GraphOffload.ObjectMap.erase` : a put and a delete.

## Main results

* `GraphOffload.ObjectMap.get?_insert`, `GraphOffload.ObjectMap.get?_erase` : what a put and a delete do
  to the view.
-/

namespace GraphOffload

/-- The objects of a store, each under its path. -/
structure ObjectMap where
  entries : List (ObjectPath × Bytes) := []

namespace ObjectMap

/-- The object under a path, if there is one. -/
def get? (objects : ObjectMap) (path : ObjectPath) : Option Bytes :=
  objects.entries.lookup path

/-- The store without the object under a path. -/
def erase (objects : ObjectMap) (path : ObjectPath) : ObjectMap :=
  ⟨objects.entries.filter fun entry => entry.1 != path⟩

/-- The store with an object under a path, in place of the one that was there. -/
def insert (objects : ObjectMap) (path : ObjectPath) (data : Bytes) : ObjectMap :=
  ⟨(path, data) :: (objects.erase path).entries⟩

/-- The paths strictly below a path. -/
def below (objects : ObjectMap) (parent : ObjectPath) : List ObjectPath :=
  (objects.entries.map Prod.fst).filter (·.isBelow parent)

/-- An empty map has no objects. -/
@[simp] theorem get?_empty (path : ObjectPath) : get? {} path = none := rfl

/-- What is erased is not found, and all else is. -/
theorem get?_erase (objects : ObjectMap) (path other : ObjectPath) :
    (objects.erase path).get? other = if other = path then none else objects.get? other := by
  obtain ⟨entries⟩ := objects
  simp only [get?, erase]
  induction entries with
  | nil => simp
  | cons entry rest ih =>
    obtain ⟨held, data⟩ := entry
    by_cases h : held = path
    · by_cases g : other = path
      · simpa [h, g] using ih
      · simpa [h, g, List.lookup_cons, beq_eq_false_iff_ne.mpr g] using ih
    · by_cases g : other = held
      · simp [g, h]
      · simpa [h, List.lookup_cons, beq_eq_false_iff_ne.mpr g] using ih

/-- What is inserted is found under its path, and all else is as it was. -/
theorem get?_insert (objects : ObjectMap) (path other : ObjectPath) (data : Bytes) :
    (objects.insert path data).get? other =
      if other = path then some data else objects.get? other := by
  have erased := get?_erase objects path other
  simp only [get?, insert] at erased ⊢
  by_cases h : other = path
  · simp [h]
  · simp [List.lookup_cons, h, beq_eq_false_iff_ne.mpr h] at erased ⊢
    exact erased

end ObjectMap

end GraphOffload

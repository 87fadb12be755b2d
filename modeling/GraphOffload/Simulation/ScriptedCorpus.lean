import GraphOffload.Corpus.Cursor

/-!
# Corpora with planned faults

## Main definitions

* `GraphOffload.ScriptedCursor` : a cursor over vectors of any length that fails where it was told to.
* `GraphOffload.ScriptedCorpus` : the corpus of such cursors.
-/

namespace GraphOffload

/-- A cursor that fails where it was told to. -/
structure ScriptedCursor where
  ids : List DocId
  vectors : List Elements
  /-- After so many documents no other one is found. -/
  failNext : Option Nat
  /-- Past so many documents no vector is read. -/
  failVector : Option Nat
  /-- How many documents were given so far. -/
  returned : Nat := 0

instance : Cursor ScriptedCursor where
  nextDoc cursor :=
    if cursor.failNext.any (· ≤ cursor.returned) then
      (.error ⟨.other, "index went away"⟩, cursor)
    else match cursor.ids with
      | [] => (.ok none, cursor)
      | id :: rest => (.ok (some id), { cursor with ids := rest, returned := cursor.returned + 1 })
  vector cursor :=
    if cursor.failVector.any (· < cursor.returned) then (.error ⟨.other, "disk went away"⟩, cursor)
    else
      let vector := if cursor.returned = 0 then none else cursor.vectors[cursor.returned - 1]?
      match vector with
      | some vector => (.ok vector, cursor)
      | none => (.error ⟨.invalidInput, "no vector"⟩, cursor)

/-- A corpus with planned faults. -/
structure ScriptedCorpus where
  shape : CorpusShape
  ids : List DocId
  vectors : List Elements
  /-- Whether no cursor can be opened. -/
  failOpen : Bool := false
  failNext : Option Nat := none
  failVector : Option Nat := none

/-- The corpus as one that is read through cursors. -/
def ScriptedCorpus.toCorpus (script : ScriptedCorpus) : Corpus ScriptedCursor :=
  ⟨script.shape,
    if script.failOpen then .error ⟨.other, "cannot open"⟩
    else .ok {
      ids := script.ids
      vectors := script.vectors
      failNext := script.failNext
      failVector := script.failVector }⟩

end GraphOffload

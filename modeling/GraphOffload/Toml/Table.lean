import GraphOffload.Toml.Value

/-!
# Tables of TOML documents

The tables of a document grow line by line. A table stands where a header put it, or where a longer
header or a dotted key needed it; which of these it was decides what may still be added to it.

## Main definitions

* `GraphOffload.Toml.Origin` : why a table is there.
* `GraphOffload.Toml.Item` : what stands under a key while a document is read.
* `GraphOffload.Toml.Entries.addPair` : adds the value of a possibly dotted key.
* `GraphOffload.Toml.Entries.addSection` : adds what follows a header.
-/

namespace GraphOffload.Toml

/-- Why a table is there. -/
inductive Origin
  /-- A header, or the document itself, defines it. -/
  | defined
  /-- A longer header needs it. -/
  | implied
  /-- A dotted key needs it. -/
  | dotted
  deriving DecidableEq

/-- What stands under a key while a document is read: a value, a table, or tables of one name, the
last one first. -/
inductive Item
  | value (value : Toml)
  | table (origin : Origin) (entries : List (String × Item))
  | tables (elements : List (List (String × Item)))

/-- The entries of a table. -/
abbrev Entries := List (String × Item)

/-- The kinds of headers. -/
inductive HeaderKind
  /-- The header of a table. -/
  | single
  /-- The header of one of several tables of one name. -/
  | repeated
  deriving DecidableEq

/-- A key with its value. -/
structure Pair where
  path : List String
  key : String
  value : Toml

/-- What stands between a header and the next one. -/
structure Section where
  kind : HeaderKind
  path : List String
  key : String
  pairs : List Pair

namespace Entries

/-- The entries with an item under a key, in place of the one that was there. -/
def set (key : String) (item : Item) : Entries → Entries
  | [] => [(key, item)]
  | (other, held) :: rest =>
    if other = key then (key, item) :: rest else (other, held) :: set key item rest

/-- Changes the table that lies down a path. Tables that are not there yet are made, for a dotted key
or for a header. -/
def change (dotted : Bool) (edit : Origin → Entries → Option Entries) :
    List String → Origin → Entries → Option Entries
  | [], origin, entries => edit origin entries
  | key :: path, _, entries =>
    match entries.lookup key with
    | none => do
      let origin := if dotted then Origin.dotted else Origin.implied
      return set key (.table origin (← change dotted edit path origin [])) entries
    | some (.value _) => none
    | some (.tables []) => none
    | some (.tables (last :: earlier)) => do
      return set key (.tables ((← change dotted edit path .defined last) :: earlier)) entries
    | some (.table origin inner) =>
      if dotted && origin = .defined then none
      else do return set key (.table origin (← change dotted edit path origin inner)) entries

/-- Adds the value of a key. No key is given twice, and a dotted key adds to no table that a header
defines or needs. -/
def addPair (pair : Pair) (entries : Entries) : Option Entries :=
  let edit (origin : Origin) (inner : Entries) : Option Entries :=
    if (origin = .dotted) ↔ pair.path.isEmpty then none
    else if (inner.lookup pair.key).isSome then none
    else some (inner ++ [(pair.key, .value pair.value)])
  change true edit pair.path .defined entries

/-- Adds the values of several keys. -/
def addPairs (pairs : List Pair) (entries : Entries) : Option Entries :=
  pairs.foldlM (fun entries pair => addPair pair entries) entries

/-- Adds what follows a header. The header of a single table may name a table that only longer headers
needed so far, and no other one. -/
def addSection (part : Section) (entries : Entries) : Option Entries :=
  let edit (_ : Origin) (inner : Entries) : Option Entries := do
    match part.kind, inner.lookup part.key with
    | .single, none => return set part.key (.table .defined (← addPairs part.pairs [])) inner
    | .single, some (.table .implied held) =>
      return set part.key (.table .defined (← addPairs part.pairs held)) inner
    | .repeated, none => return set part.key (.tables [← addPairs part.pairs []]) inner
    | .repeated, some (.tables elements) =>
      return set part.key (.tables ((← addPairs part.pairs []) :: elements)) inner
    | _, _ => none
  change false edit part.path .defined entries

end Entries

mutual

/-- The value that an item comes to. -/
def Item.toValue : Item → Toml
  | .value value => value
  | .table _ entries => .table (entriesToMembers entries)
  | .tables elements => .array (elementsToValues elements).reverse

/-- The members of a table. -/
def entriesToMembers : Entries → List (String × Toml)
  | [] => []
  | (key, item) :: rest => (key, item.toValue) :: entriesToMembers rest

/-- The tables of one name, in the order of the list. -/
def elementsToValues : List Entries → List Toml
  | [] => []
  | entries :: rest => .table (entriesToMembers entries) :: elementsToValues rest

end

end GraphOffload.Toml

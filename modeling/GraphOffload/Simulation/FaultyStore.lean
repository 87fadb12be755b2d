import GraphOffload.Storage.ObjectMap
import GraphOffload.Storage.StoreError
import GraphOffload.Text.Blank
import GraphOffload.Transfer.Plan

/-!
# A store with planned faults

A store in memory that keeps a log of the calls on it and fails where it was told to.

## Main definitions

* `GraphOffload.PlannedFault` : which call is to fail, and how.
* `GraphOffload.FaultyStore` : the objects, the plan of faults and the log.
-/

namespace GraphOffload

/-- The kinds of calls on a store. -/
inductive StoreCallKind
  | head
  | put
  | openUpload
  | sendPart
  | complete
  | abort
  | get
  | getRange
  | delete
  | list
  deriving DecidableEq

/-- The word for a kind of calls. -/
def StoreCallKind.word : StoreCallKind → String
  | head => "head"
  | put => "put"
  | openUpload => "put_multipart"
  | sendPart => "put_part"
  | complete => "complete"
  | abort => "abort"
  | get => "get"
  | getRange => "get_range"
  | delete => "delete"
  | list => "list"

/-- How a call fails. -/
inductive InjectedFault
  | generic
  | notFound
  | alreadyExists
  | precondition
  /-- A fetched range keeps only so many bytes. -/
  | short (keep : Nat)
  deriving DecidableEq

/-- Which call is to fail, and how: the one with the given number among its kind, or all of them. -/
structure PlannedFault where
  kind : StoreCallKind
  number : Option Nat
  fault : InjectedFault

/-- The error that a planned fault brings for an object. -/
def InjectedFault.toError? (location : String) : InjectedFault → Option StoreError
  | generic => some (.generic "Fault" "injected")
  | notFound => some (.notFound location "injected")
  | alreadyExists => some (.alreadyExists location "injected")
  | precondition => some (.precondition location "injected")
  | short _ => none

/-- An upload in parts: its place, and the parts that arrived. -/
structure OpenUpload where
  path : ObjectPath
  data : Bytes := []

/-- A store with planned faults. -/
structure FaultyStore where
  objects : ObjectMap := {}
  plan : List PlannedFault := []
  /-- Whether calls are logged and planned faults are heeded. -/
  watched : Bool := true
  /-- The kinds of all calls so far. -/
  made : List StoreCallKind := []
  /-- The log, the last call first. -/
  log : List String := []
  upload : Option OpenUpload := none
  /-- How the sending of parts under way will end. -/
  sending : List (Part × Except StoreError Unit) := []
  /-- How the fetching of ranges under way will end. -/
  fetching : List ((ObjectPath × Nat × Nat) × Except StoreError Bytes) := []

namespace FaultyStore

/-- What is said of an object that is not there. -/
def missing (path : ObjectPath) : StoreError :=
  .notFound path.text ("No data in memory found. Location: " ++ path.text)

/-- The text without the blanks it ends with. -/
def dropBlanksAtEnd (text : String) : String :=
  String.ofList (Text.dropBlanks text.toList.reverse).reverse

/-- Logs a call on a location and gives the fault that is planned for it. -/
def enter (store : FaultyStore) (kind : StoreCallKind) (details : String) :
    Option InjectedFault × FaultyStore :=
  if store.watched then
    let number := store.made.count kind
    let planned := store.plan.find? fun fault =>
      fault.kind = kind ∧ (fault.number = none ∨ fault.number = some number)
    (planned.map PlannedFault.fault,
      { store with
        made := kind :: store.made
        log := dropBlanksAtEnd (kind.word ++ " " ++ details) :: store.log })
  else (none, store)

/-- Makes a call that does its work unless an error is planned for it. -/
def guarded {α : Type} (store : FaultyStore) (kind : StoreCallKind) (location details : String)
    (work : FaultyStore → Except StoreError α × FaultyStore) : Except StoreError α × FaultyStore :=
  let (planned, store) := store.enter kind details
  match planned.bind (InjectedFault.toError? location) with
  | some error => (.error error, store)
  | none => work store

/-- The object under a path, or that it is not there. -/
def lookUp (store : FaultyStore) (path : ObjectPath) : Except StoreError Bytes :=
  match store.objects.get? path with
  | some data => .ok data
  | none => .error (missing path)

/-- The size of an object. -/
def head (store : FaultyStore) (path : ObjectPath) : Except StoreError UInt64 × FaultyStore :=
  store.guarded .head path.text path.text fun store =>
    ((store.lookUp path).map fun data => .ofNat data.length, store)

/-- Puts an object. -/
def put (store : FaultyStore) (path : ObjectPath) (data : Bytes) :
    Except StoreError Unit × FaultyStore :=
  store.guarded .put path.text (path.text ++ s!" {data.length}") fun store =>
    (.ok (), { store with objects := store.objects.insert path data })

/-- The bytes of an object. -/
def get (store : FaultyStore) (path : ObjectPath) : Except StoreError Bytes × FaultyStore :=
  store.guarded .get path.text path.text fun store => (store.lookUp path, store)

/-- The bytes from `start` up to `finish`, as far as there are any. -/
def slice (data : Bytes) (start finish : Nat) : Except StoreError Bytes :=
  if finish ≤ start then .error (RangeFault.toStoreError (.empty start finish))
  else if data.length ≤ start then .error (RangeFault.toStoreError (.pastEnd start data.length))
  else .ok ((data.drop start).take (finish - start))

/-- Begins to fetch a range. -/
def beginRange (store : FaultyStore) (path : ObjectPath) (start finish : Nat) : FaultyStore :=
  let (planned, store) := store.enter .getRange (path.text ++ s!" {start}-{finish}")
  let outcome : Except StoreError Bytes :=
    match planned.bind (InjectedFault.toError? path.text) with
    | some error => .error error
    | none => do
      let bytes ← slice (← store.lookUp path) start finish
      match planned with
      | some (.short keep) => return bytes.take keep
      | _ => return bytes
  { store with fetching := store.fetching ++ [((path, start, finish), outcome)] }

/-- The first outcome under a key, and the list without it. -/
def takeFirst {κ α : Type} [DecidableEq κ] (key : κ) : List (κ × α) → Option α × List (κ × α)
  | [] => (none, [])
  | (other, value) :: rest =>
    if other = key then (some value, rest)
    else
      let (found, rest) := takeFirst key rest
      (found, (other, value) :: rest)

/-- Ends the fetching of a range. -/
def endRange (store : FaultyStore) (path : ObjectPath) (start finish : Nat) :
    Except StoreError Bytes × FaultyStore :=
  let (outcome, fetching) := takeFirst (path, start, finish) store.fetching
  (outcome.getD (.error (missing path)), { store with fetching := fetching })

/-- Deletes an object; there need not be one. -/
def delete (store : FaultyStore) (path : ObjectPath) : Except StoreError Unit × FaultyStore :=
  store.guarded .delete path.text path.text fun store =>
    (.ok (), { store with objects := store.objects.erase path })

/-- The paths below a path. -/
def list (store : FaultyStore) (path : ObjectPath) :
    Except StoreError (List ObjectPath) × FaultyStore :=
  store.guarded .list path.text path.text fun store => (.ok (store.objects.below path), store)

/-- Opens an upload in parts. -/
def openUpload (store : FaultyStore) (path : ObjectPath) : Except StoreError Unit × FaultyStore :=
  store.guarded .openUpload path.text path.text fun store =>
    (.ok (), { store with upload := some { path := path }, sending := [] })

/-- Begins to send a part; parts are joined in the order in which their sending begins. -/
def beginPart (store : FaultyStore) (part : Part) (data : Bytes) : FaultyStore :=
  let (outcome, store) := store.guarded .sendPart "part" s!"{data.length}" fun store =>
    (.ok (), { store with
      upload := store.upload.map fun upload => { upload with data := upload.data ++ data } })
  { store with sending := store.sending ++ [(part, outcome)] }

/-- Ends the sending of a part. -/
def endPart (store : FaultyStore) (part : Part) : Except StoreError Unit × FaultyStore :=
  let (outcome, sending) := takeFirst part store.sending
  (outcome.getD (.ok ()), { store with sending := sending })

/-- Completes the open upload: its object appears. -/
def completeUpload (store : FaultyStore) : Except StoreError Unit × FaultyStore :=
  store.guarded .complete "complete" "" fun store =>
    match store.upload with
    | some upload =>
      (.ok (), { store with objects := store.objects.insert upload.path upload.data, upload := none })
    | none => (.ok (), store)

/-- Aborts the open upload. -/
def abortUpload (store : FaultyStore) : Except StoreError Unit × FaultyStore :=
  store.guarded .abort "abort" "" fun store => (.ok (), { store with upload := none })

end FaultyStore

end GraphOffload

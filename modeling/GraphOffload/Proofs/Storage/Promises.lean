import GraphOffload.Proofs.Runs.Traces
import Mathlib.Logic.Function.Basic

/-!
# What a store promises

A program sees of a store only the replies to its calls. What the replies mean is the store's
promise, stated here as a step relation on what the store holds: a call that fails has no effect,
"not found" is only said of an object that is not there, an upload in parts shows no object before
it is completed, and the object it then shows is made of the parts in the order in which their
sending began, as long as every part was acknowledged. Nothing else is assumed; in particular calls
may fail at any time, and a store may say of an object that is not there that it is. Of a range that
is fetched only this is promised, that it is not empty.

The build service works on the same store. Its calls, and no others, may change any object.

## Main definitions

* `GraphOffload.StoreState` : the objects that a store shows, and the upload in parts that is open.
* `GraphOffload.StoreEvent` : what an exchange is for a store.
* `GraphOffload.StoreState.Step` : what an exchange does to a store that keeps its promises.
* `GraphOffload.StoreState.Follows` : what a trace does to it.
* `GraphOffload.StoreState.FollowsTruly` : the same for a store that says of no object that it is
  there when it is not.
* `GraphOffload.FetchedRange` : a range of an object with the bytes that the store gave for it.
* `GraphOffload.Trace.ranges` : the ranges that were fetched in a trace.
* `GraphOffload.Trace.RefusesEmptyRanges` : none of them is empty.

## Main results

* `GraphOffload.StoreState.Follows.objects_eq` : the objects stay as they are while nothing writes.
* `GraphOffload.StoreState.Follows.upload_eq` : so does the open upload while no call is made on it.
-/

namespace GraphOffload

/-! ### The state of a store -/

/-- An upload in parts that was opened and neither completed nor aborted. -/
structure PendingUpload where
  path : ObjectPath
  /-- The bytes of the parts, in the order in which their sending began. -/
  data : Bytes := []
  /-- The parts whose sending has not ended. -/
  underway : List Part := []
  /-- Whether the sending of a part failed. -/
  broken : Bool := false

namespace PendingUpload

/-- The sending of one more part begins. -/
def begin (upload : PendingUpload) (part : Part) (data : Bytes) : PendingUpload :=
  { upload with data := upload.data ++ data, underway := upload.underway ++ [part] }

/-- The sending of a part ends well. -/
def acknowledge (upload : PendingUpload) (part : Part) : PendingUpload :=
  { upload with underway := upload.underway.erase part }

/-- The sending of a part fails. -/
def lose (upload : PendingUpload) (part : Part) : PendingUpload :=
  { upload with underway := upload.underway.erase part, broken := true }

/-- Whether all parts were acknowledged. -/
def IsWhole (upload : PendingUpload) : Prop := upload.underway = [] ∧ upload.broken = false

end PendingUpload

/-- The objects that a store shows, and the upload in parts that is open. -/
structure StoreState where
  objects : ObjectPath → Option Bytes
  upload : Option PendingUpload := none

/-! ### Events -/

/-- What an exchange is for a store, if it is anything. -/
inductive StoreEvent
  /-- The store says that there is no such object. -/
  | missed (path : ObjectPath)
  /-- An object takes the place of the one that was there, or is deleted. -/
  | replaced (path : ObjectPath) (object : Option Bytes)
  | opened (path : ObjectPath)
  | begun (part : Part) (data : Bytes)
  | acknowledged (part : Part)
  | lost (part : Part)
  | completed
  | aborted
  /-- The service had time to work on the store. -/
  | served

namespace Exchange

/-- What an exchange is for a store; a call that fails is nothing, but for the sending of a part. -/
def storeEvent? : Exchange → Option StoreEvent
  | ⟨.head path, .error (.notFound _ _)⟩ => some (.missed path)
  | ⟨.put path data, .ok ()⟩ => some (.replaced path (some data))
  | ⟨.delete path, .ok ()⟩ => some (.replaced path none)
  | ⟨.openUpload path, .ok ()⟩ => some (.opened path)
  | ⟨.beginPart part data, ()⟩ => some (.begun part data)
  | ⟨.endPart part, .ok ()⟩ => some (.acknowledged part)
  | ⟨.endPart part, .error _⟩ => some (.lost part)
  | ⟨.completeUpload, .ok ()⟩ => some .completed
  | ⟨.abortUpload, .ok ()⟩ => some .aborted
  | ⟨.submit _, _⟩ | ⟨.status _ _, _⟩ => some .served
  | _ => none

end Exchange

namespace StoreEvent

/-- The event may change an object. -/
def Writes : StoreEvent → Prop
  | replaced _ _ | completed | served => True
  | _ => False

/-- The event is one of an upload in parts. -/
def IsOnUpload : StoreEvent → Prop
  | opened _ | begun _ _ | acknowledged _ | lost _ | completed | aborted => True
  | _ => False

end StoreEvent

namespace StoreState

/-- The state with another object under a path, or with none. -/
def set (state : StoreState) (path : ObjectPath) (object : Option Bytes) : StoreState :=
  { state with objects := Function.update state.objects path object }

/-- To put an object leaves the open upload as it is. -/
@[simp] theorem set_upload (state : StoreState) (path : ObjectPath) (object : Option Bytes) :
    (state.set path object).upload = state.upload := rfl

/-- What is put under a path is found there, and all else is as it was. -/
theorem set_objects_apply (state : StoreState) (path other : ObjectPath) (object : Option Bytes) :
    (state.set path object).objects other = if other = path then object else state.objects other :=
  Function.update_apply ..

/-! ### Steps -/

/-- What an event does to a store that keeps its promises. -/
def Effect (s s' : StoreState) : StoreEvent → Prop
  | .missed path => s' = s ∧ s.objects path = none
  | .replaced path object => s' = s.set path object
  | .opened path => s' = { s with upload := some { path := path } }
  | .begun part data => s' = { s with upload := s.upload.map (·.begin part data) }
  | .acknowledged part => s' = { s with upload := s.upload.map (·.acknowledge part) }
  | .lost part => s' = { s with upload := s.upload.map (·.lose part) }
  | .completed => match s.upload with
    | none => s' = s
    | some upload => ∃ object, (upload.IsWhole → object = upload.data) ∧
      s' = { s.set upload.path (some object) with upload := none }
  | .aborted => s' = { s with upload := none }
  | .served => s'.upload = s.upload

/-- What an exchange does to a store that keeps its promises. -/
def Step (exchange : Exchange) (s s' : StoreState) : Prop :=
  match exchange.storeEvent? with
  | some event => Effect s s' event
  | none => s' = s

/-- What a trace does to a store that keeps its promises. -/
abbrev Follows (before : StoreState) (trace : Trace) (after : StoreState) : Prop :=
  Trace.Through Step before trace after

/-- A call that does something to the store has that effect. -/
theorem step_iff {exchange : Exchange} {event : StoreEvent} {s s' : StoreState}
    (h : exchange.storeEvent? = some event) : Step exchange s s' ↔ Effect s s' event := by
  rw [Step, h]

/-- A call that does nothing to the store leaves it as it is. -/
theorem step_iff_eq {exchange : Exchange} {s s' : StoreState} (h : exchange.storeEvent? = none) :
    Step exchange s s' ↔ s' = s := by
  rw [Step, h]

/-- What a trace does is done part by part. -/
theorem follows_append_iff {front back : Trace} {s s' : StoreState} :
    Follows s (front ++ back) s' ↔ ∃ middle, Follows s front middle ∧ Follows middle back s' :=
  Trace.through_append_iff

/-- An exchange that is nothing for the store may be left out of a trace. -/
theorem follows_cons_of_none {exchange : Exchange} {rest : Trace} {s s' : StoreState}
    (h : exchange.storeEvent? = none) : Follows s (exchange :: rest) s' ↔ Follows s rest s' := by
  simp only [Follows, Trace.through_cons_iff, step_iff_eq h, exists_eq_left]

/-- A trace begins with the effect of its first event. -/
theorem follows_cons_of_some {exchange : Exchange} {event : StoreEvent} {rest : Trace}
    {s s' : StoreState} (h : exchange.storeEvent? = some event) :
    Follows s (exchange :: rest) s' ↔ ∃ middle, Effect s middle event ∧ Follows middle rest s' := by
  simp only [Follows, Trace.through_cons_iff, step_iff h]

/-! ### What stays -/

/-- An event that does not write leaves the objects as they are. -/
theorem Effect.objects_eq {event : StoreEvent} {s s' : StoreState} (effect : Effect s s' event)
    (h : ¬ event.Writes) : s'.objects = s.objects := by
  cases event with
  | missed path => exact congrArg objects effect.1
  | replaced path object => exact absurd trivial h
  | completed => exact absurd trivial h
  | served => exact absurd trivial h
  | opened | begun | acknowledged | lost | aborted =>
    cases effect
    rfl

/-- An event on something else leaves the open upload as it is. -/
theorem Effect.upload_eq {event : StoreEvent} {s s' : StoreState} (effect : Effect s s' event)
    (h : ¬ event.IsOnUpload) : s'.upload = s.upload := by
  cases event with
  | missed path => exact congrArg upload effect.1
  | replaced path object =>
    cases effect
    rfl
  | served => exact effect
  | opened | begun | acknowledged | lost | completed | aborted => exact absurd trivial h

/-- The objects stay as they are while nothing writes. -/
theorem Follows.objects_eq {before after : StoreState} {trace : Trace}
    (follows : Follows before trace after)
    (h : ∀ exchange ∈ trace, ∀ event, exchange.storeEvent? = some event → ¬ event.Writes) :
    after.objects = before.objects := by
  refine follows.unchanged objects fun exchange mem s s' step => ?_
  cases event : exchange.storeEvent? with
  | none => exact congrArg objects ((step_iff_eq event).mp step)
  | some happened => exact ((step_iff event).mp step).objects_eq (h _ mem _ event)

/-- The open upload stays as it is while no call is made on it. -/
theorem Follows.upload_eq {before after : StoreState} {trace : Trace}
    (follows : Follows before trace after)
    (h : ∀ exchange ∈ trace, ∀ event, exchange.storeEvent? = some event → ¬ event.IsOnUpload) :
    after.upload = before.upload := by
  refine follows.unchanged upload fun exchange mem s s' step => ?_
  cases event : exchange.storeEvent? with
  | none => exact congrArg upload ((step_iff_eq event).mp step)
  | some happened => exact ((step_iff event).mp step).upload_eq (h _ mem _ event)

/-! ### Truthful stores -/

/-- If the store gives the size of an object, the object is there. -/
def Affirms (s : StoreState) : Exchange → Prop
  | ⟨.head path, .ok _⟩ => s.objects path ≠ none
  | _ => True

/-- What a trace does to a store that keeps its promises and says of no object that it is there when
it is not. -/
abbrev FollowsTruly (before : StoreState) (trace : Trace) (after : StoreState) : Prop :=
  Trace.Through (fun exchange s s' => Step exchange s s' ∧ s.Affirms exchange) before trace after

/-- A store that also tells the truth follows the trace. -/
theorem FollowsTruly.follows {before after : StoreState} {trace : Trace}
    (follows : FollowsTruly before trace after) : Follows before trace after :=
  follows.mono fun _ _ _ => And.left

/-- What a trace does is done part by part. -/
theorem followsTruly_append_iff {front back : Trace} {s s' : StoreState} :
    FollowsTruly s (front ++ back) s' ↔
      ∃ middle, FollowsTruly s front middle ∧ FollowsTruly middle back s' :=
  Trace.through_append_iff

end StoreState

/-! ### Ranges -/

/-- A range of an object, from `start` up to `finish`, with the bytes that the store gave for it. -/
structure FetchedRange where
  path : ObjectPath
  start : Nat
  finish : Nat
  data : Bytes

/-- The range that is fetched in an exchange. -/
def Exchange.range? : Exchange → Option FetchedRange
  | ⟨.endRange path start finish, .ok data⟩ => some ⟨path, start, finish, data⟩
  | _ => none

namespace Trace

/-- The ranges that were fetched in a trace. -/
def ranges (trace : Trace) : List FetchedRange := trace.filterMap Exchange.range?

/-- Without calls no range is fetched. -/
@[simp] theorem ranges_nil : ranges [] = [] := rfl

/-- The ranges that are fetched in two traces are those of each. -/
@[simp] theorem ranges_append (front back : Trace) :
    ranges (front ++ back) = ranges front ++ ranges back :=
  List.filterMap_append

/-- The store refuses ranges that end where they start, or before. -/
def RefusesEmptyRanges (trace : Trace) : Prop := ∀ range ∈ trace.ranges, range.start < range.finish

end Trace

end GraphOffload

import GraphOffload.Proofs.Build.Delivery
import GraphOffload.Proofs.Transfer.Flight
import GraphOffload.Proofs.Transfer.Writing
import Mathlib.Algebra.Group.Nat.Defs

/-!
# Downloads reproduce the object

A download gives the sink the object byte by byte, or it gives it nothing at all. Which of the two is
decided before the first byte is written: by the answer to the question for the size, and by the
answers to the ranges, whatever the order in which they come.

## Main definitions

* `GraphOffload.Trace.received` : what a sink received in a trace, bytes and flushes.
* `GraphOffload.Exchange.TellsOf` : what a store says is true of one object.
* `GraphOffload.Download.Ends` : how a download ends.
* `GraphOffload.Download.AsksFirst` : the size of the object is asked for first, under the path of its key.
* `GraphOffload.Download.Reproduces` : a download reproduces an object, or touches nothing.

## Main results

* `GraphOffload.Download.flatten_eq_object` : the chunks in order are the object.
* `GraphOffload.Download.object_reproduces` : every download reproduces the object or touches nothing.
-/

namespace GraphOffload

open Attempting

/-! ### What a sink receives -/

/-- What a sink can receive. -/
inductive SinkEvent
  | byte (value : UInt8)
  | flush
  deriving DecidableEq

/-- What the sink receives in an exchange: the bytes that it takes, or that it is flushed. -/
def Exchange.received : Exchange → List SinkEvent
  | ⟨.flush, _⟩ => [.flush]
  | exchange => exchange.taken.map .byte

namespace Trace

variable {trace front back : Trace}

/-- What the sink received in a trace, in its order. -/
def received (trace : Trace) : List SinkEvent := trace.flatMap Exchange.received

/-- Without calls nothing is received. -/
@[simp] theorem received_nil : received [] = [] := rfl

/-- What is received in two traces is what is received in each. -/
@[simp] theorem received_append : received (front ++ back) = front.received ++ back.received :=
  List.flatMap_append

/-- A sink that is only written to receives what it takes. -/
theorem received_eq_map_sunk (writes : ∀ exchange ∈ trace, exchange.1 ≠ .flush) :
    trace.received = trace.sunk.map .byte := by
  induction trace with
  | nil => rfl
  | cons exchange rest ih =>
    obtain ⟨first, others⟩ := List.forall_mem_cons.mp writes
    have first_eq : exchange.received = exchange.taken.map .byte := by
      obtain ⟨call, reply⟩ := exchange
      cases call <;> first | exact absurd rfl first | rfl
    rw [sunk_cons, List.map_append, ← ih others, ← first_eq]
    rfl

/-- A sink that is not called receives nothing. -/
theorem received_eq_nil (h : ∀ exchange ∈ trace, ¬ exchange.1.Sinks) : trace.received = [] := by
  refine List.flatMap_eq_nil_iff.mpr fun exchange mem => ?_
  obtain ⟨call, reply⟩ := exchange
  have quiet := h _ mem
  cases call <;> first | exact absurd trivial quiet | rfl

/-- Ranges are asked for by the calls of the fetching. -/
theorem requests_eq_nil (h : ∀ exchange ∈ trace, exchange.1.phase ≠ 3) : trace.requests = [] := by
  refine List.filterMap_eq_nil_iff.mpr fun exchange mem => ?_
  obtain ⟨call, reply⟩ := exchange
  cases call with
  | beginRange path start finish => exact absurd rfl (h _ mem)
  | _ => rfl

/-- A range that was fetched is the answer in some exchange. -/
theorem endRange_mem_of_mem_ranges {range : FetchedRange} (mem : range ∈ trace.ranges) :
    ⟨.endRange range.path range.start range.finish, .ok range.data⟩ ∈ trace := by
  obtain ⟨exchange, came, fetched⟩ := List.mem_filterMap.mp mem
  obtain ⟨call, reply⟩ := exchange
  cases call with
  | endRange path start finish =>
    cases reply with
    | error error => cases fetched
    | ok data =>
      obtain rfl := Option.some.inj fetched
      exact came
  | _ => cases fetched

/-- Other calls leave the ranges in flight as they are. -/
theorem through_inFlight {limit : Nat} (h : ∀ exchange ∈ trace, exchange.1.phase ≠ 3)
    (flight : List RangeRequest) : Trace.Through (Exchange.InFlight limit) flight trace flight := by
  induction trace with
  | nil => rfl
  | cons exchange rest ih =>
    obtain ⟨first, others⟩ := List.forall_mem_cons.mp h
    refine ⟨flight, ?_, ih others⟩
    obtain ⟨call, reply⟩ := exchange
    cases call <;> first | exact absurd rfl first | rfl

/-- Other calls are no failures of ranges. -/
theorem unbroken_of_phase (h : ∀ exchange ∈ trace, exchange.1.phase ≠ 3) :
    ∀ exchange ∈ trace, ¬ exchange.RangeFails := by
  intro exchange mem fails
  have other := h exchange mem
  obtain ⟨call, reply⟩ := exchange
  cases call <;> first | exact fails | exact absurd rfl other

end Trace

/-! ### Truthful answers -/

/-- What a store says is true of one object: its size, and the bytes of a range if they are as many as
were asked for. -/
def Exchange.TellsOf (object : Bytes) : Exchange → Prop
  | ⟨.head _, .ok size⟩ => size.toNat = object.length
  | ⟨.endRange _ start finish, .ok data⟩ =>
    data.length = finish - start → data = Bytes.slice object (start, finish - start)
  | _ => True

namespace Download

variable {options : TransferOptions} {key : String} {path : ObjectPath} {trace fetches : Trace}
  {outcome : Except Failure Nat}

/-! ### How a download ends -/

/-- How a download ends: the key has no path, there is no size, the fetching breaks off, the writing
fails, or the object is delivered. -/
inductive Ends (options : TransferOptions) (key : String) : Trace → Except Failure Nat → Prop
  | unnamed {error : ObjectPath.Error} (wrong : ObjectPath.parse key = .error error) :
      Ends options key [] (.error (.path error))
  | unsized {path : ObjectPath} {error : StoreError} (parsed : ObjectPath.parse key = .ok path) :
      Ends options key [⟨.head path, .error error⟩] (.error (BlobStore.failureOf key error))
  | broken {path : ObjectPath} {size : UInt64} {fetches : Trace} {failure : Failure}
      (parsed : ObjectPath.parse key = .ok path)
      (fetching : Run (fetchAll key path size.toNat options.atOnce
        (Chunk.plan size options.chunkSize)) fetches (.error failure)) :
      Ends options key
        ([⟨.head path, .ok size⟩, ⟨.notify (.started key size.toNat), ()⟩] ++ fetches)
        (.error failure)
  | unwritten {path : ObjectPath} {size : UInt64} {fetches writes : Trace}
      {arrived : List (Nat × Bytes)} {failure : Failure} (parsed : ObjectPath.parse key = .ok path)
      (fetching : Run (fetchAll key path size.toNat options.atOnce
        (Chunk.plan size options.chunkSize)) fetches (.ok arrived))
      (writing : Run (writeInOrder key arrived (Chunk.plan size options.chunkSize).length) writes
        (.error failure)) :
      Ends options key
        ([⟨.head path, .ok size⟩, ⟨.notify (.started key size.toNat), ()⟩] ++ (fetches ++ writes))
        (.error failure)
  | delivered {path : ObjectPath} {size : UInt64} {fetches writes : Trace}
      {arrived : List (Nat × Bytes)} {written : Nat} (parsed : ObjectPath.parse key = .ok path)
      (fetching : Run (fetchAll key path size.toNat options.atOnce
        (Chunk.plan size options.chunkSize)) fetches (.ok arrived))
      (writing : Run (writeInOrder key arrived (Chunk.plan size options.chunkSize).length) writes
        (.ok written)) :
      Ends options key
        ([⟨.head path, .ok size⟩, ⟨.notify (.started key size.toNat), ()⟩] ++ (fetches ++ (writes ++
          [⟨.count (.moved .download written), ()⟩, ⟨.notify (.complete key written), ()⟩])))
        (.ok written)

/-- Every download ends in one of these ways.

**Proof sketch.** The operations one by one: each fails, so that the download ends, or gives what the
next one needs. -/
theorem ends_of_run (run : Run (object options key) trace outcome) :
    Ends options key trace outcome := by
  unfold object BlobStore.head BlobStore.pathOf at run
  cases parsed : ObjectPath.parse key with
  | error error =>
    rw [parsed] at run
    rcases run_bind_iff.mp run with ⟨_, rfl, asking⟩ | ⟨_, _, _, _, asking, _⟩
    · obtain ⟨rfl, same⟩ := run_ofExcept_bind_iff.mp asking
      obtain rfl := Except.error.inj same
      exact .unnamed parsed
    · cases (run_ofExcept_bind_iff.mp asking).2
  | ok path =>
    rw [parsed] at run
    rcases run_bind_iff.mp run with ⟨_, rfl, asking⟩ | ⟨size, front, rest, rfl, asking, run₁⟩
    · obtain ⟨reply, rfl, means⟩ := run_attempt_iff.mp (run_ofExcept_bind_iff.mp asking)
      cases reply with
      | error error =>
        obtain rfl := Except.error.inj means
        exact .unsized parsed
      | ok size => cases means
    obtain ⟨reply, rfl, means⟩ := run_attempt_iff.mp (run_ofExcept_bind_iff.mp asking)
    cases reply with
    | error error => cases means
    | ok size' =>
      obtain rfl := Except.ok.inj means
      obtain ⟨rest, rfl, run₂⟩ := run_notify_bind_iff.mp (run_ofExcept_bind_iff.mp run₁)
      -- the size is known: from here on the chunks of its plan are fetched
      rcases run_bind_iff.mp run₂ with ⟨_, rfl, fetching⟩ | ⟨arrived, fetches, rest, rfl, fetching, run₃⟩
      · exact .broken parsed fetching
      rcases run_bind_iff.mp run₃ with ⟨_, rfl, writing⟩ | ⟨written, writes, rest, rfl, writing, run₄⟩
      · exact .unwritten parsed fetching writing
      obtain ⟨rest, rfl, run₅⟩ := run_count_bind_iff.mp run₄
      obtain ⟨rest, rfl, run₆⟩ := run_notify_bind_iff.mp run₅
      obtain ⟨rfl, rfl⟩ := run_pure_iff.mp run₆
      exact .delivered parsed fetching writing

/-! ### Fetching the object -/

/-- A plan is fetched as a whole if its fetching goes well. -/
theorem run_fetchAll_ok {plan : List Chunk} {total atOnce : Nat} {arrived : List (Nat × Bytes)}
    (run : Run (fetchAll key path total atOnce plan) trace (.ok arrived)) (positive : 0 < atOnce) :
    ∃ arrivals : List (Chunk × Bytes), (arrivals.map Prod.fst).Perm plan ∧
      (∀ arrival ∈ arrivals, Arrived plan arrival) ∧
      arrived = arrivals.map (fun arrival => (arrival.1.index, arrival.2)) ∧
      trace.requests = plan.map (Chunk.request path) ∧
      trace.ranges = arrivals.map (fun arrival => arrival.1.fetched path arrival.2) ∧
      ∀ exchange ∈ trace, ¬ exchange.RangeFails := by
  obtain ⟨last, asked, arrivals, advances, done, rfl⟩ := run_fetch_ok run positive le_rfl
  rw [Fetching.stepsLeft] at done
  have none_waits : last.waiting = [] := List.length_eq_zero_iff.mp (by omega)
  have none_flies : last.underway = [] := List.length_eq_zero_iff.mp (by omega)
  have all_asked : plan = asked := by simpa [none_waits] using advances.waiting_eq
  subst all_asked
  have perm : (arrivals.map Prod.fst).Perm plan := by
    simpa [none_flies] using advances.chunks_perm.symm
  refine ⟨arrivals, perm, fun arrival mem => ?_, by simpa using advances.arrived_eq,
    advances.requests_eq, advances.ranges_eq, advances.unbroken⟩
  exact ⟨perm.mem_iff.mp (List.mem_map_of_mem mem), advances.whole arrival mem⟩

section

variable {size : UInt64} {arrivals : List (Chunk × Bytes)} {bytes : Bytes} {ordered : List Bytes}

/-- Chunks that arrived once each can be put in order. -/
theorem exists_assemble_plan (perm : (arrivals.map Prod.fst).Perm (Chunk.plan size options.chunkSize)) :
    ∃ ordered, assemble (Chunk.plan size options.chunkSize).length
      (arrivals.map fun arrival => (arrival.1.index, arrival.2)) = .ok ordered := by
  apply exists_assemble
  have numbers := perm.map Chunk.index
  rw [Chunk.map_index_plan, List.map_map] at numbers
  rw [List.map_map]
  exact numbers

/-- The answers to the ranges of a plan are to ranges with their ends in order, if the store refuses
others or if the object is one that can be held. -/
theorem refusesEmptyRanges_of_plan (size_eq : size.toNat = bytes.length)
    (arrived : ∀ arrival ∈ arrivals, Arrived (Chunk.plan size options.chunkSize) arrival)
    (ranges_eq : trace.ranges = arrivals.map fun arrival => arrival.1.fetched path arrival.2)
    (proper : bytes.length < 2 ^ 63 ∨ trace.RefusesEmptyRanges) : trace.RefusesEmptyRanges := by
  refine proper.elim (fun fits => ?_) id
  intro range mem
  rw [ranges_eq] at mem
  obtain ⟨arrival, came, rfl⟩ := List.mem_map.mp mem
  exact UInt64.lt_iff_toNat_lt.mp
    (Chunk.start_lt_finish_of_fits (size_eq ▸ fits) _ (arrived arrival came).1)

/-- **The chunks in order are the object**, if the store told of one object.

**Proof sketch.** They are what was read; and what was read agrees with the object on every range that
was asked for, so on every byte. -/
theorem flatten_eq_object (tells : ∀ exchange ∈ trace, exchange.TellsOf bytes)
    (sized : ⟨.head path, .ok size⟩ ∈ trace) (refuses : trace.RefusesEmptyRanges)
    (arrived : ∀ arrival ∈ arrivals, Arrived (Chunk.plan size options.chunkSize) arrival)
    (ranges_eq : trace.ranges = arrivals.map fun arrival => arrival.1.fetched path arrival.2)
    (assembled : assemble (Chunk.plan size options.chunkSize).length
      (arrivals.map fun arrival => (arrival.1.index, arrival.2)) = .ok ordered) :
    ordered.flatten = bytes := by
  have reads := readsAs_of_assemble arrived ranges_eq assembled sized refuses
  obtain ⟨size', mem, length_eq⟩ := reads.size
  have told : size'.toNat = bytes.length := tells _ mem
  refine reads.eq_of_slices (told.symm.trans length_eq) fun range mem => ?_
  have answer := tells _ (Trace.endRange_mem_of_mem_ranges mem)
  rw [ranges_eq] at mem
  obtain ⟨arrival, came, rfl⟩ := List.mem_map.mp mem
  exact answer (arrived arrival came).2

/-- Every byte of an object is in one range of its plan only, and no range goes past its end. -/
theorem countP_requests (forward : ∀ chunk ∈ Chunk.plan size options.chunkSize,
    chunk.start < chunk.finish) (place : Nat) :
    ((Chunk.plan size options.chunkSize).map (Chunk.request path)).countP
        (fun request => request.Holds path place) =
      if place < size.toNat then 1 else 0 := by
  have counted := (Chunk.tiles_plan forward).countP_eq place
  rw [List.countP_map] at counted ⊢
  simp only [Nat.zero_le, true_and] at counted
  rw [← counted]
  refine List.countP_congr fun chunk mem => ?_
  have ordered := UInt64.lt_iff_toNat_lt.mp (forward chunk mem)
  simp only [Function.comp_apply, decide_eq_true_eq, RangeRequest.Holds, Chunk.request, Chunk.extent,
    Chunk.length, true_and, Nat.add_sub_of_le ordered.le]

end

/-! ### Writing the object -/

/-- A sink that takes everything receives the chunks in their order, and is then flushed once. -/
theorem run_writeInOrder_of_accepts {chunks : List (Nat × Bytes)} {count : Nat} {ordered : List Bytes}
    (run : Run (writeInOrder key chunks count) trace outcome)
    (assembled : assemble count chunks = .ok ordered)
    (accepts : ∀ exchange ∈ trace, ¬ exchange.SinkFails) :
    outcome = .ok ordered.flatten.length ∧
      trace.received = ordered.flatten.map .byte ++ [.flush] := by
  obtain ⟨failure, rfl, offering⟩ | ⟨writes, reply, rfl, offering, rfl⟩ :=
    run_writeInOrder_of_assembled run assembled
  · obtain ⟨_, exchange, mem, fails⟩ := (run_writeEach offering).2 failure rfl
    exact absurd fails (accepts exchange mem)
  have taken := ((run_writeEach offering).1 _ rfl).1
  have only_writes := offering.forall_within (within_writeEach (P := (· ≠ .flush)) (by simp) ordered)
  cases reply with
  | error fault => exact absurd trivial (accepts ⟨.flush, .error fault⟩ (by simp))
  | ok done =>
    refine ⟨rfl, ?_⟩
    rw [Trace.received_append, Trace.received_eq_map_sunk only_writes, taken]
    rfl

/-- Fetching calls nothing but the store. -/
theorem not_sinks_of_fetching {steps total atOnce : Nat} {fetching : Fetching}
    {arrived : Except Failure (List (Nat × Bytes))} (parsed : ObjectPath.parse key = .ok path)
    (run : Run (fetch key path total atOnce steps fetching) trace arrived) :
    ∀ exchange ∈ trace, ¬ exchange.1.Sinks := by
  intro exchange mem sinks
  have fetches := run.forall_within (within_fetch parsed total atOnce steps fetching) exchange mem
  have early := fetches.phase_le
  rw [sinks.phase_eq] at early
  omega

/-- Writing asks for no range. -/
theorem phase_ne_of_writing {chunks : List (Nat × Bytes)} {count : Nat}
    (run : Run (writeInOrder key chunks count) trace outcome) :
    ∀ exchange ∈ trace, exchange.1.phase ≠ 3 := by
  intro exchange mem
  rw [(run.forall_within (within_writeInOrder chunks count) exchange mem).phase_eq]
  decide

/-! ### The whole download -/

/-- The first thing that is asked for in a trace is the size of the object under a key; this is the
reply. -/
def AsksFirst (key : String) (trace : Trace) (path : ObjectPath)
    (reply : Except StoreError UInt64) : Prop :=
  ObjectPath.parse key = .ok path ∧ trace.head? = some ⟨.head path, reply⟩

/-- A download reproduces an object, or touches nothing. It asks for the size of the object first, under
the path of the key. If the size is told and no range fails, the ranges of the plan are asked for, so that
every byte of the object is asked for once; the sink receives the bytes in their order and one flush, and
the outcome is their number. If a range fails, the outcome names a chunk whose own range failed, and the
sink is not called; if the size is not told, nothing is fetched. At no time are more ranges in flight
than there may be. -/
structure Reproduces (options : TransferOptions) (key : String) (object : Bytes) (trace : Trace)
    (outcome : Except Failure Nat) : Prop where
  asks : ∀ path, ObjectPath.parse key = .ok path → ∃ reply, AsksFirst key trace path reply
  whole : ∀ path size, AsksFirst key trace path (.ok size) →
    (∀ exchange ∈ trace, ¬ exchange.RangeFails) →
      outcome = .ok object.length ∧ trace.received = object.map .byte ++ [.flush] ∧
      trace.requests = (Chunk.plan size options.chunkSize).map (Chunk.request path) ∧
      ∀ place, trace.requests.countP (fun request => request.Holds path place) =
        if place < object.length then 1 else 0
  empty : object = [] → trace.requests = []
  few : ∃ left, Trace.Through (Exchange.InFlight (max options.concurrency.toNat 1)) [] trace left
  broken : (∃ exchange ∈ trace, exchange.RangeFails) → ∃ path size chunk reply fault,
    AsksFirst key trace path (.ok size) ∧ chunk ∈ Chunk.plan size options.chunkSize ∧
      ⟨.endRange path chunk.start.toNat chunk.finish.toNat, reply⟩ ∈ trace ∧
      Exchange.RangeFails ⟨.endRange path chunk.start.toNat chunk.finish.toNat, reply⟩ ∧
      outcome = .error (.partialTransfer key chunk.index fault) ∧
      ∀ exchange ∈ trace, ¬ exchange.1.Sinks
  unsized : ∀ path error, AsksFirst key trace path (.error error) →
    outcome = .error (BlobStore.failureOf key error) ∧ trace.requests = [] ∧
      ∀ exchange ∈ trace, ¬ exchange.1.Sinks
  unnamed : ∀ error, ObjectPath.parse key = .error error →
    outcome = .error (.path error) ∧ trace = []

section

variable {size : UInt64} {object : Bytes} {arrived : List (Nat × Bytes)} {later : Trace}

/-- The exchanges of a download before it fetches. -/
def opening (key : String) (path : ObjectPath) (size : UInt64) : Trace :=
  [⟨.head path, .ok size⟩, ⟨.notify (.started key size.toNat), ()⟩]

/-- There are never too many ranges in flight, whatever comes before and after the fetching. -/
theorem exists_through_inFlight {steps total atOnce : Nat} {plan : List Chunk}
    {fetched : Except Failure (List (Nat × Bytes))}
    (fetching : Run (fetch key path total atOnce steps { waiting := plan }) fetches fetched)
    (quiet : ∀ exchange ∈ later, exchange.1.phase ≠ 3) :
    ∃ left, Trace.Through (Exchange.InFlight atOnce) []
      (opening key path size ++ (fetches ++ later)) left := by
  have opens : Trace.Through (Exchange.InFlight atOnce) [] (opening key path size) [] :=
    Trace.through_inFlight (by simp [opening, Call.phase]) []
  obtain ⟨left, flies⟩ := exists_through_fetch fetching
  refine ⟨left, Trace.through_append_iff.mpr ⟨[], opens, ?_⟩⟩
  exact Trace.through_append_iff.mpr ⟨left, flies, Trace.through_inFlight quiet left⟩

/-- Nothing is asked of an empty object. -/
theorem plan_eq_nil_of_empty (size_eq : size.toNat = ([] : Bytes).length) :
    Chunk.plan size options.chunkSize = [] := by
  obtain rfl : size = 0 := UInt64.toNat_inj.mp size_eq
  exact Chunk.plan_zero _

/-- A trace that begins with the question for the size, under the path of the key, asks for it first. -/
theorem asks_of_head {reply : Except StoreError UInt64} (parsed : ObjectPath.parse key = .ok path)
    (first : trace.head? = some ⟨.head path, reply⟩) :
    ∀ path', ObjectPath.parse key = .ok path' → ∃ reply, AsksFirst key trace path' reply := by
  intro path' parsed'
  obtain rfl := Except.ok.inj (parsed.symm.trans parsed')
  exact ⟨reply, parsed, first⟩

/-- Of a download that is told the size it remains to say what comes of it with ranges that fail, and
without.

**Proof sketch.** The question that it asks first is the one that was answered. -/
theorem reproduces_of_told (parsed : ObjectPath.parse key = .ok path)
    (first : trace.head? = some ⟨.head path, .ok size⟩)
    (whole : (∀ exchange ∈ trace, ¬ exchange.RangeFails) →
      outcome = .ok object.length ∧ trace.received = object.map .byte ++ [.flush] ∧
      trace.requests = (Chunk.plan size options.chunkSize).map (Chunk.request path) ∧
      ∀ place, trace.requests.countP (fun request => request.Holds path place) =
        if place < object.length then 1 else 0)
    (empty : object = [] → trace.requests = [])
    (few : ∃ left, Trace.Through (Exchange.InFlight options.atOnce) [] trace left)
    (broken : (∃ exchange ∈ trace, exchange.RangeFails) → ∃ chunk reply fault,
      chunk ∈ Chunk.plan size options.chunkSize ∧
        ⟨.endRange path chunk.start.toNat chunk.finish.toNat, reply⟩ ∈ trace ∧
        Exchange.RangeFails ⟨.endRange path chunk.start.toNat chunk.finish.toNat, reply⟩ ∧
        outcome = .error (.partialTransfer key chunk.index fault) ∧
        ∀ exchange ∈ trace, ¬ exchange.1.Sinks) :
    Reproduces options key object trace outcome := by
  constructor
  case asks => exact asks_of_head parsed first
  case whole =>
    rintro path' size' ⟨_, first'⟩ unbroken
    obtain ⟨rfl, rfl⟩ : path = path' ∧ size = size' := by simpa using first.symm.trans first'
    exact whole unbroken
  case empty => exact empty
  case few => exact few
  case broken =>
    intro failed
    obtain ⟨chunk, reply, fault, planned, answered, fails, named, untouched⟩ := broken failed
    exact ⟨path, size, chunk, reply, fault, ⟨parsed, first⟩, planned, answered, fails, named, untouched⟩
  case unsized =>
    rintro path' error ⟨_, first'⟩
    cases first.symm.trans first'
  case unnamed =>
    intro error unparsed
    cases parsed.symm.trans unparsed

/-- If the fetching breaks off, the outcome names a chunk whose own range failed, and the sink is not
called.

**Proof sketch.** The failure is that of a chunk of the plan (`run_fetch_error`), whose range failed
(`checkChunk_eq_error`). So there was one that failed, and the object was not empty; and neither the
question nor the fetching calls the sink. -/
theorem reproduces_of_broken {failure : Failure} (parsed : ObjectPath.parse key = .ok path)
    (fetching : Run (fetchAll key path size.toNat options.atOnce (Chunk.plan size options.chunkSize))
      fetches (.error failure))
    (tells : ∀ exchange ∈ opening key path size ++ fetches, exchange.TellsOf object) :
    Reproduces options key object (opening key path size ++ fetches) (.error failure) := by
  have planned : ∀ chunk ∈ [] ++ Chunk.plan size options.chunkSize,
      chunk ∈ Chunk.plan size options.chunkSize := by simp
  obtain ⟨chunk, mem, reply, answered, wrong⟩ := run_fetch_error fetching planned
  obtain ⟨fails, fault, rfl⟩ := checkChunk_eq_error path wrong
  have answered := List.mem_append_right (opening key path size) answered
  have size_eq : size.toNat = object.length := tells ⟨.head path, .ok size⟩ (by simp [opening])
  refine reproduces_of_told parsed rfl (fun unbroken => ?_) ?_ ?_ fun _ => ?_
  · exact absurd fails (unbroken _ answered)
  · rintro rfl
    rw [plan_eq_nil_of_empty size_eq] at mem
    exact absurd mem List.not_mem_nil
  · have flies : ∃ left, Trace.Through (Exchange.InFlight options.atOnce) []
        (opening key path size ++ (fetches ++ [])) left :=
      exists_through_inFlight fetching (by simp)
    rwa [List.append_nil] at flies
  · refine ⟨chunk, reply, fault, mem, answered, fails, rfl, ?_⟩
    exact List.forall_mem_append.mpr
      ⟨by simp [opening, Call.Sinks], not_sinks_of_fetching parsed fetching⟩

/-- Until the writing begins the sink receives nothing. -/
theorem received_fetching_eq_nil {fetched : Except Failure (List (Nat × Bytes))} {total atOnce : Nat}
    {plan : List Chunk} (parsed : ObjectPath.parse key = .ok path)
    (fetching : Run (fetchAll key path total atOnce plan) fetches fetched) :
    Trace.received (opening key path size ++ fetches) = [] :=
  Trace.received_eq_nil (List.forall_mem_append.mpr
    ⟨by simp [opening, Call.Sinks], not_sinks_of_fetching parsed fetching⟩)

/-- Where no empty range is given, every chunk that arrived has bytes to ask for. -/
theorem start_lt_finish_of_refuses {plan : List Chunk} {arrivals : List (Chunk × Bytes)}
    (perm : (arrivals.map Prod.fst).Perm plan)
    (ranges_eq : fetches.ranges = arrivals.map fun arrival => arrival.1.fetched path arrival.2)
    (refuses : fetches.RefusesEmptyRanges) : ∀ chunk ∈ plan, chunk.start < chunk.finish := by
  intro chunk planned
  obtain ⟨arrival, landed, rfl⟩ := List.mem_map.mp (perm.mem_iff.mpr planned)
  have given : arrival.1.fetched path arrival.2 ∈ fetches.ranges := by
    rw [ranges_eq]
    exact List.mem_map.mpr ⟨arrival, landed, rfl⟩
  exact UInt64.lt_iff_toNat_lt.mpr (refuses _ given)

/-- If the fetching goes well, the sink receives the object.

**Proof sketch.** All chunks arrived, each once, so that they can be put in order; and in order they are
the object. The sink takes all of it. -/
theorem reproduces_of_fetched {writes after : Trace} (parsed : ObjectPath.parse key = .ok path)
    (fetching : Run (fetchAll key path size.toNat options.atOnce (Chunk.plan size options.chunkSize))
      fetches (.ok arrived))
    (writing : Run (writeInOrder key arrived (Chunk.plan size options.chunkSize).length) writes outcome)
    (idle : after.Idle) (trace_eq : trace = opening key path size ++ (fetches ++ (writes ++ after)))
    (tells : ∀ exchange ∈ trace, exchange.TellsOf object)
    (accepts : ∀ exchange ∈ trace, ¬ exchange.SinkFails)
    (proper : object.length < 2 ^ 63 ∨ trace.RefusesEmptyRanges) :
    Reproduces options key object trace outcome := by
  obtain ⟨arrivals, perm, came, rfl, requests_eq, ranges_eq, unbroken⟩ :=
    run_fetchAll_ok fetching (Nat.le_max_right _ 1)
  have split : trace = (opening key path size ++ fetches) ++ (writes ++ after) := by
    rw [trace_eq, List.append_assoc]
  have size_eq : size.toNat = object.length :=
    tells ⟨.head path, .ok size⟩ (by simp [trace_eq, opening])
  have quiet : ∀ exchange ∈ writes ++ after, exchange.1.phase ≠ 3 := by
    refine List.forall_mem_append.mpr ⟨phase_ne_of_writing writing, fun exchange mem => ?_⟩
    rw [(idle exchange mem).phase_eq]
    decide
  have refuses : Trace.RefusesEmptyRanges (opening key path size ++ fetches) :=
    refusesEmptyRanges_of_plan size_eq came ranges_eq
      (proper.imp_right fun refuses => (split ▸ refuses).of_append)
  obtain ⟨ordered, assembled⟩ := exists_assemble_plan perm
  have told : ∀ exchange ∈ opening key path size ++ fetches, exchange.TellsOf object :=
    fun exchange mem => tells exchange (split ▸ List.mem_append_left _ mem)
  have ordered_eq : ordered.flatten = object :=
    flatten_eq_object told (by simp [opening]) refuses came ranges_eq assembled
  have taken : ∀ exchange ∈ writes, ¬ exchange.SinkFails := fun exchange mem =>
    accepts exchange (split ▸ List.mem_append_right _ (List.mem_append_left _ mem))
  obtain ⟨outcome_eq, received_eq⟩ := run_writeInOrder_of_accepts writing assembled taken
  have asked : trace.requests = (Chunk.plan size options.chunkSize).map (Chunk.request path) := by
    rw [split, Trace.requests_append, Trace.requests_eq_nil quiet, List.append_nil]
    exact requests_eq
  refine reproduces_of_told parsed (by rw [trace_eq]; rfl) (fun _ => ?_) ?_ ?_ ?_
  · have ended_silently : after.received = [] := by
      refine Trace.received_eq_nil fun exchange mem sinks => ?_
      have idles := (idle exchange mem).phase_eq
      rw [sinks.phase_eq] at idles
      omega
    refine ⟨ordered_eq ▸ outcome_eq, ?_, asked, fun place => ?_⟩
    · rw [split, Trace.received_append, received_fetching_eq_nil parsed fetching, Trace.received_append,
        ended_silently, received_eq, ordered_eq, List.nil_append, List.append_nil]
    · rw [asked, countP_requests (start_lt_finish_of_refuses perm ranges_eq refuses), size_eq]
  · rintro rfl
    rw [asked, plan_eq_nil_of_empty size_eq, List.map_nil]
  · exact trace_eq ▸ exists_through_inFlight fetching quiet
  · -- no range of this download fails, neither before the fetching, nor in it, nor after it
    rintro ⟨exchange, mem, fails⟩
    rw [split] at mem
    rcases List.mem_append.mp mem with mem | mem
    · rcases List.mem_append.mp mem with mem | mem
      · exact absurd fails (Trace.unbroken_of_phase (by simp [opening, Call.phase]) exchange mem)
      · exact absurd fails (unbroken exchange mem)
    · exact absurd fails (Trace.unbroken_of_phase quiet exchange mem)

end

/-- **Every download reproduces the object or touches nothing**, in whatever order the ranges are
answered, as long as the store tells of one object and the sink takes what it is given. An object of
so many bytes that no memory holds them has ranges whose ends do not fit into words; of it the store
has to refuse those.

**Proof sketch.** A download ends in one of five ways. The sink takes everything, so that the writing
does not fail; the fetching has gone well then, and the sink receives the object. -/
theorem object_reproduces {options : TransferOptions} {key : String} {object : Bytes} {trace : Trace}
    {outcome : Except Failure Nat} (run : Run (Download.object options key) trace outcome)
    (tells : ∀ exchange ∈ trace, exchange.TellsOf object)
    (accepts : ∀ exchange ∈ trace, ¬ exchange.SinkFails)
    (proper : object.length < 2 ^ 63 ∨ trace.RefusesEmptyRanges) :
    Reproduces options key object trace outcome := by
  cases ends_of_run run with
  | @unnamed error wrong =>
    constructor
    case asks =>
      intro path parsed
      rw [wrong] at parsed
      cases parsed
    case whole =>
      rintro path size ⟨_, first⟩
      cases first
    case empty => exact fun _ => rfl
    case few => exact ⟨[], rfl⟩
    case broken =>
      rintro ⟨exchange, mem, _⟩
      cases mem
    case unsized =>
      rintro path error' ⟨_, first⟩
      cases first
    case unnamed =>
      intro error' wrong'
      obtain rfl := Except.error.inj (wrong.symm.trans wrong')
      exact ⟨rfl, rfl⟩
  | @unsized path error parsed =>
    have quiet : ∀ exchange ∈ ([⟨.head path, .error error⟩] : Trace), exchange.1.phase ≠ 3 := by
      simp [Call.phase]
    constructor
    case asks => exact asks_of_head parsed rfl
    case whole =>
      rintro path' size ⟨_, first⟩
      cases first
    case empty => exact fun _ => rfl
    case few => exact ⟨[], Trace.through_inFlight quiet []⟩
    case broken =>
      rintro ⟨exchange, mem, fails⟩
      exact absurd fails (Trace.unbroken_of_phase quiet exchange mem)
    case unsized =>
      rintro path' error' ⟨_, first⟩
      obtain ⟨rfl, rfl⟩ : path = path' ∧ error = error' := by simpa using first
      exact ⟨rfl, rfl, by simp [Call.Sinks]⟩
    case unnamed =>
      intro error' wrong
      rw [parsed] at wrong
      cases wrong
  | broken parsed fetching => exact reproduces_of_broken parsed fetching tells
  | unwritten parsed fetching writing =>
    have idle : Trace.Idle [] := List.forall_mem_nil _
    refine reproduces_of_fetched parsed fetching writing idle ?_ tells accepts proper
    rw [List.append_nil]
    rfl
  | delivered parsed fetching writing =>
    refine reproduces_of_fetched parsed fetching writing ?_ rfl tells accepts proper
    simp [Trace.Idle, Call.IsIdle]

/-! ### A small download -/

instance (object : Bytes) : DecidablePred (Exchange.TellsOf object) := fun exchange => by
  unfold Exchange.TellsOf
  split <;> infer_instance

instance : DecidablePred Exchange.SinkFails := fun exchange => by
  unfold Exchange.SinkFails
  split <;> infer_instance

/-- A world with three bytes in its store, and a sink that takes two bytes at a time. -/
def smallWorld : World MemoryCursor :=
  { World.small [] with
    store := { objects := ObjectMap.insert {} ⟨["g"]⟩ [7, 8, 9] }
    sink := { stepSize := some 2 } }

/-- Three bytes are fetched in chunks of two: the size is asked for, and then two ranges; the sink receives
the three bytes and is flushed. -/
theorem object_reproduces_three_bytes :
    ∃ trace : Trace, Run (object ⟨4, 2, 2⟩ "g") trace (.ok 3) ∧
      Reproduces ⟨4, 2, 2⟩ "g" [7, 8, 9] trace (.ok 3) ∧
      AsksFirst "g" trace ⟨["g"]⟩ (.ok 3) ∧
      trace.requests = [⟨⟨["g"]⟩, 0, 2⟩, ⟨⟨["g"]⟩, 2, 3⟩] ∧
      trace.received = [.byte 7, .byte 8, .byte 9, .flush] := by
  let program := (object ⟨4, 2, 2⟩ "g").run
  have run := Dialogue.run_transcript World.answer program smallWorld
  have parsed : ObjectPath.parse "g" = .ok ⟨["g"]⟩ := by decide +kernel
  -- one evaluation of the whole download serves all that can be computed of it
  obtain ⟨outcome_eq, tells, accepts, requests_eq, received_eq⟩ :
      (program.play World.answer smallWorld).1 = .ok 3 ∧
        (∀ exchange ∈ program.transcript World.answer smallWorld, Exchange.TellsOf [7, 8, 9] exchange) ∧
        (∀ exchange ∈ program.transcript World.answer smallWorld, ¬ Exchange.SinkFails exchange) ∧
        Trace.requests (program.transcript World.answer smallWorld) =
          [⟨⟨["g"]⟩, 0, 2⟩, ⟨⟨["g"]⟩, 2, 3⟩] ∧
        Trace.received (program.transcript World.answer smallWorld) =
          [.byte 7, .byte 8, .byte 9, .flush] := by
    decide +kernel
  rw [outcome_eq] at run
  have reproduces := object_reproduces run tells accepts (.inl (by decide))
  exact ⟨_, run, reproduces, ⟨parsed, rfl⟩, requests_eq, received_eq⟩

end Download

end GraphOffload

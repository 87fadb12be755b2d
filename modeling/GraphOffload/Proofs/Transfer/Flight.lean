import GraphOffload.Proofs.Build.Calls
import GraphOffload.Proofs.Transfer.Fetching

/-!
# Ranges in flight

The ranges of a download are asked for in the order of their plan, and answered in any order. While a
download lasts, no more of them are in flight than it was told; if it comes to its end every one was
asked for and answered, and it breaks off with the first answer that is not what was asked for.

## Main definitions

* `GraphOffload.Trace.requests` : the ranges asked for in a trace.
* `GraphOffload.Exchange.InFlight` : what an exchange does to the ranges in flight.
* `GraphOffload.Exchange.RangeFails` : the answer to a range that is not what was asked for.
* `GraphOffload.Download.Steps` : what a step of a download can do.

## Main results

* `GraphOffload.Download.steps_of_run` : nothing else can a step do.
* `GraphOffload.Download.exists_through_fetch` : there are never too many ranges in flight.
* `GraphOffload.Download.run_fetch_ok` : a download that goes well fetches every chunk once.
* `GraphOffload.Download.run_fetch_error` : a download that breaks off names a chunk whose own range
  failed.
-/

namespace GraphOffload

open Attempting

/-! ### Requests and answers -/

/-- A range of an object that is asked for, from `start` up to `finish`. -/
structure RangeRequest where
  path : ObjectPath
  start : Nat
  finish : Nat
  deriving DecidableEq

/-- A range that is asked for holds a place of an object. -/
def RangeRequest.Holds (path : ObjectPath) (place : Nat) (request : RangeRequest) : Prop :=
  request.path = path ∧ request.start ≤ place ∧ place < request.finish
  deriving Decidable

/-- The range that a chunk asks for. -/
def Chunk.request (path : ObjectPath) (chunk : Chunk) : RangeRequest :=
  ⟨path, chunk.start.toNat, chunk.finish.toNat⟩

/-- The range that is asked for in an exchange. -/
def Exchange.request? : Exchange → Option RangeRequest
  | ⟨.beginRange path start finish, _⟩ => some ⟨path, start, finish⟩
  | _ => none

/-- The ranges asked for in a trace, in their order. -/
def Trace.requests (trace : Trace) : List RangeRequest := trace.filterMap Exchange.request?

/-- Without calls nothing is requested. -/
@[simp] theorem Trace.requests_nil : Trace.requests [] = [] := rfl

/-- What is requested in two traces is what is requested in each. -/
@[simp] theorem Trace.requests_append (front back : Trace) :
    Trace.requests (front ++ back) = front.requests ++ back.requests :=
  List.filterMap_append

/-- What an exchange does to the ranges in flight: one more is asked for, as long as they are no more
than the limit, or one of them is answered. -/
def Exchange.InFlight (limit : Nat) : Exchange → List RangeRequest → List RangeRequest → Prop
  | ⟨.beginRange path start finish, _⟩, before, after =>
    after = before ++ [⟨path, start, finish⟩] ∧ after.length ≤ limit
  | ⟨.endRange path start finish, _⟩, before, after =>
    before.Perm (⟨path, start, finish⟩ :: after)
  | _, before, after => after = before

/-- The answer to a range is not what was asked for: an error, or another number of bytes. -/
def Exchange.RangeFails : Exchange → Prop
  | ⟨.endRange .., .error _⟩ => True
  | ⟨.endRange _ start finish, .ok data⟩ => data.length ≠ finish - start
  | _ => False

namespace Download

variable {key : String} {path : ObjectPath} {total atOnce : Nat} {trace : Trace}

/-- A chunk is refused if its range failed, and its number is told. -/
theorem checkChunk_eq_error (path : ObjectPath) {chunk : Chunk} {reply : Except StoreError Bytes}
    {failure : Failure} (wrong : checkChunk key chunk reply = .error failure) :
    Exchange.RangeFails ⟨.endRange path chunk.start.toNat chunk.finish.toNat, reply⟩ ∧
      ∃ fault, failure = .partialTransfer key chunk.index fault := by
  cases reply with
  | error error =>
    obtain rfl := Except.error.inj wrong
    exact ⟨trivial, _, rfl⟩
  | ok data =>
    rw [checkChunk] at wrong
    split at wrong
    · cases wrong
    · rename_i short
      obtain rfl := Except.error.inj wrong
      exact ⟨short, _, rfl⟩

/-- A chunk is taken if its range is what was asked for. -/
theorem checkChunk_eq_ok {chunk : Chunk} {reply : Except StoreError Bytes} {data : Bytes}
    (right : checkChunk key chunk reply = .ok data) :
    reply = .ok data ∧ data.length = chunk.length := by
  cases reply with
  | error error => cases right
  | ok data' =>
    rw [checkChunk] at right
    split at right
    · rename_i whole
      obtain rfl := Except.ok.inj right
      exact ⟨rfl, whole⟩
    · cases right

/-! ### Steps -/

/-- What a step of a download can do: ask for the next range, take the answer to one, break off with
the answer to one, or nothing once all is done. -/
inductive Steps (key : String) (path : ObjectPath) (total atOnce : Nat) (fetching : Fetching) :
    Trace → Except Failure Fetching → Prop
  | asks {chunk : Chunk} {later : List Chunk} {others : Nat} {index : Fin (others + 1)}
      (waits : fetching.waiting = chunk :: later) (room : fetching.underway.length < atOnce) :
      Steps key path total atOnce fetching
        [⟨.choose others, index⟩, ⟨.beginRange path chunk.start.toNat chunk.finish.toNat, ()⟩]
        (.ok { fetching with underway := fetching.underway ++ [chunk], waiting := later })
  | takes {chunk : Chunk} {data : Bytes} {front back : List Chunk} {others : Nat}
      {index : Fin (others + 1)} (held : fetching.underway = front ++ chunk :: back)
      (whole : data.length = chunk.length) :
      Steps key path total atOnce fetching
        [⟨.choose others, index⟩,
          ⟨.endRange path chunk.start.toNat chunk.finish.toNat, .ok data⟩,
          ⟨.notify (.progress key (fetching.moved + data.length) total), ()⟩]
        (.ok { fetching with
          underway := front ++ back
          arrived := (chunk.index, data) :: fetching.arrived
          moved := fetching.moved + data.length })
  | breaks {chunk : Chunk} {reply : Except StoreError Bytes} {failure : Failure} {others : Nat}
      {index : Fin (others + 1)} (held : chunk ∈ fetching.underway)
      (wrong : checkChunk key chunk reply = .error failure) :
      Steps key path total atOnce fetching
        [⟨.choose others, index⟩, ⟨.endRange path chunk.start.toNat chunk.finish.toNat, reply⟩]
        (.error failure)
  | rests {others : Nat} {index : Fin (others + 1)} (landed : fetching.underway = [])
      (idle : 0 < atOnce → fetching.waiting = []) :
      Steps key path total atOnce fetching [⟨.choose others, index⟩] (.ok fetching)

/-- Nothing else can a step do.

**Proof sketch.** The store chooses among the chunks under way and one more that may begin. Where
there is neither, none is under way, or the store could have chosen it. -/
theorem steps_of_run {fetching : Fetching} {outcome : Except Failure Fetching}
    (run : Run (step key path total atOnce fetching) trace outcome) :
    Steps key path total atOnce fetching trace outcome := by
  obtain ⟨index, rest, rfl, run₁⟩ := run_attempt_ok_bind_iff.mp run
  dsimp only at run₁
  split at run₁
  · rename_i chunk found
    obtain ⟨below, held⟩ := List.getElem?_eq_some_iff.mp found
    obtain ⟨reply, rest, rfl, run₂⟩ := run_attempt_bind_iff.mp run₁
    cases checked : checkChunk key chunk reply with
    | error failure =>
      rw [checked] at run₂
      obtain ⟨rfl, rfl⟩ := run₂
      exact .breaks (List.mem_of_getElem? found) checked
    | ok data =>
      rw [checked] at run₂
      obtain ⟨rfl, whole⟩ := checkChunk_eq_ok checked
      obtain ⟨rest, rfl, run₃⟩ := run_notify_bind_iff.mp run₂
      obtain ⟨rfl, rfl⟩ := run_pure_iff.mp run₃
      rw [List.eraseIdx_eq_take_drop_succ]
      refine .takes ?_ whole
      rw [← held, ← List.drop_eq_getElem_cons below, List.take_append_drop]
  · rename_i chunk none_chosen next
    obtain ⟨_, rest, rfl, run₂⟩ := run_attempt_ok_bind_iff.mp run₁
    obtain ⟨rfl, rfl⟩ := run_pure_iff.mp run₂
    split at next
    · rename_i room
      obtain ⟨later, waits⟩ := List.head?_eq_some_iff.mp next
      obtain rfl : fetching.waiting.tail = later := by rw [waits, List.tail_cons]
      exact .asks waits room
    · cases next
  · rename_i none_chosen none_next
    obtain ⟨rfl, rfl⟩ := run_pure_iff.mp run₁
    -- a chunk under way could have been chosen, as nothing else was there to choose from
    have landed : fetching.underway = [] := by
      have past := List.getElem?_eq_none_iff.mp none_chosen
      have chosen := index.isLt
      have none_waits := congrArg (·.toList.length) none_next
      simp only [Option.toList_none, List.length_nil] at none_waits
      exact List.length_eq_zero_iff.mp (by omega)
    refine .rests landed fun some_room => ?_
    rw [landed, List.length_nil, if_pos some_room] at none_next
    exact List.head?_eq_none_iff.mp none_next

/-! ### Whole runs -/

/-- A step leaves no more ranges in flight than it may.

**Proof sketch.** By what the step does: one range more is in flight, for which there was room, or one
fewer, or as many as before. -/
theorem Steps.exists_through {fetching : Fetching} {outcome : Except Failure Fetching}
    (steps : Steps key path total atOnce fetching trace outcome) :
    ∃ left, Trace.Through (Exchange.InFlight atOnce) (fetching.underway.map (Chunk.request path))
        trace left ∧
      ∀ next, outcome = .ok next → left = next.underway.map (Chunk.request path) := by
  cases steps with
  | @asks chunk later others index waits room =>
    refine ⟨_, ⟨_, rfl, _, ⟨rfl, ?_⟩, rfl⟩, ?_⟩
    · rw [List.length_append, List.length_map]
      exact room
    · rintro next ⟨⟩
      simp [Chunk.request]
  | @takes chunk data front back others index held whole =>
    refine ⟨(front ++ back).map (Chunk.request path), ⟨_, rfl, _, ?_, _, rfl, rfl⟩, ?_⟩
    · rw [held, List.map_append, List.map_cons, List.map_append]
      exact List.perm_middle
    · rintro next ⟨⟩
      rfl
  | @breaks chunk reply failure others index held wrong =>
    obtain ⟨front, back, split⟩ := List.append_of_mem held
    refine ⟨(front ++ back).map (Chunk.request path), ⟨_, rfl, _, ?_, rfl⟩, nofun⟩
    rw [split, List.map_append, List.map_cons, List.map_append]
    exact List.perm_middle
  | rests landed idle =>
    refine ⟨_, ⟨_, rfl, rfl⟩, ?_⟩
    rintro next ⟨⟩
    rfl

/-- **There are never too many ranges in flight.** -/
theorem exists_through_fetch {steps : Nat} {fetching : Fetching}
    {outcome : Except Failure (List (Nat × Bytes))}
    (run : Run (fetch key path total atOnce steps fetching) trace outcome) :
    ∃ left, Trace.Through (Exchange.InFlight atOnce) (fetching.underway.map (Chunk.request path))
      trace left := by
  induction steps generalizing fetching trace with
  | zero =>
    obtain ⟨rfl, _⟩ := run_pure_iff.mp run
    exact ⟨_, rfl⟩
  | succ steps ih =>
    rcases run_bind_iff.mp run with ⟨failure, rfl, first⟩ | ⟨next, front, back, rfl, first, later⟩
    · obtain ⟨left, through, _⟩ := (steps_of_run first).exists_through
      exact ⟨left, through⟩
    · obtain ⟨_, through, same⟩ := (steps_of_run first).exists_through
      obtain rfl := same next rfl
      obtain ⟨left, through'⟩ := ih later
      exact ⟨left, Trace.through_append_iff.mpr ⟨_, through, through'⟩⟩

/-- How many steps there are until every chunk is here: two for each that waits, one for each under
way. -/
def Fetching.stepsLeft (fetching : Fetching) : Nat :=
  2 * fetching.waiting.length + fetching.underway.length

/-- From one point of a download to another one some chunks were asked for, and some arrived. -/
structure Advances (path : ObjectPath) (fetching next : Fetching) (trace : Trace)
    (asked : List Chunk) (arrivals : List (Chunk × Bytes)) : Prop where
  waiting_eq : fetching.waiting = asked ++ next.waiting
  requests_eq : trace.requests = asked.map (Chunk.request path)
  chunks_perm : (fetching.underway ++ asked).Perm (arrivals.map Prod.fst ++ next.underway)
  whole : ∀ arrival ∈ arrivals, arrival.2.length = arrival.1.length
  ranges_eq : trace.ranges = arrivals.map fun arrival => arrival.1.fetched path arrival.2
  arrived_eq : next.arrived.reverse =
    fetching.arrived.reverse ++ arrivals.map fun arrival => (arrival.1.index, arrival.2)
  unbroken : ∀ exchange ∈ trace, ¬ exchange.RangeFails

namespace Advances

variable {first middle last : Fetching} {front back : Trace} {asked asked' : List Chunk}
  {arrivals arrivals' : List (Chunk × Bytes)}

/-- A download advances by nothing where nothing happens. -/
theorem refl : Advances path first first [] [] [] := by
  constructor <;> simp

/-- **Advances add up**: what two of them ask for and bring, they do together. -/
theorem trans (h : Advances path first middle front asked arrivals)
    (h' : Advances path middle last back asked' arrivals') :
    Advances path first last (front ++ back) (asked ++ asked') (arrivals ++ arrivals') := by
  constructor
  case waiting_eq => rw [h.waiting_eq, h'.waiting_eq, List.append_assoc]
  case requests_eq => rw [Trace.requests_append, h.requests_eq, h'.requests_eq, List.map_append]
  case chunks_perm =>
    have later := h'.chunks_perm.append_left (arrivals.map Prod.fst)
    rw [← List.append_assoc, ← List.append_assoc, ← List.map_append] at later
    rw [← List.append_assoc]
    exact (h.chunks_perm.append_right asked').trans later
  case whole => exact List.forall_mem_append.mpr ⟨h.whole, h'.whole⟩
  case ranges_eq => rw [Trace.ranges_append, h.ranges_eq, h'.ranges_eq, List.map_append]
  case arrived_eq => rw [h'.arrived_eq, h.arrived_eq, List.map_append, List.append_assoc]
  case unbroken => exact List.forall_mem_append.mpr ⟨h.unbroken, h'.unbroken⟩

end Advances

/-- A step that goes well is one step less to go.

**Proof sketch.** By what the step does. To ask for a chunk takes it from those that wait, and to take
one from those under way; each chunk needs both. -/
theorem Steps.advances {fetching next : Fetching}
    (steps : Steps key path total atOnce fetching trace (.ok next)) (positive : 0 < atOnce) :
    ∃ asked arrivals, Advances path fetching next trace asked arrivals ∧
      next.stepsLeft = fetching.stepsLeft - 1 := by
  cases steps with
  | @asks chunk later others index waits room =>
    refine ⟨[chunk], [], ?_, ?_⟩
    · constructor
      case requests_eq => rfl
      case ranges_eq => rfl
      all_goals simp [waits, Exchange.RangeFails]
    · simp only [Fetching.stepsLeft, waits, List.length_cons, List.length_append, List.length_nil]
      omega
  | @takes chunk data front back others index held whole =>
    refine ⟨[], [(chunk, data)], ?_, ?_⟩
    · constructor
      case requests_eq => rfl
      case ranges_eq => rfl
      case unbroken => simpa [Exchange.RangeFails, Chunk.length] using whole
      case chunks_perm => simp [held]
      all_goals simp [whole]
    · simp only [Fetching.stepsLeft, held, List.length_cons, List.length_append]
      omega
  | rests landed idle =>
    refine ⟨[], [], ?_, ?_⟩
    · constructor
      case requests_eq => rfl
      case ranges_eq => rfl
      all_goals simp [Exchange.RangeFails]
    · simp [Fetching.stepsLeft, landed, idle positive]

/-- **A download that goes well fetches every chunk**, if it has steps enough.

**Proof sketch.** Induction on the steps. Every step is one less to go, so that nothing is left to do
after the last one. -/
theorem run_fetch_ok {steps : Nat} {fetching : Fetching} {arrived : List (Nat × Bytes)}
    (run : Run (fetch key path total atOnce steps fetching) trace (.ok arrived))
    (positive : 0 < atOnce) (enough : fetching.stepsLeft ≤ steps) :
    ∃ last asked arrivals, Advances path fetching last trace asked arrivals ∧
      last.stepsLeft = 0 ∧ arrived = last.arrived.reverse := by
  induction steps generalizing fetching trace with
  | zero =>
    obtain ⟨rfl, same⟩ := run_pure_iff.mp run
    exact ⟨fetching, [], [], .refl, Nat.le_zero.mp enough, Except.ok.inj same⟩
  | succ steps ih =>
    rcases run_bind_iff.mp run with ⟨failure, same, _⟩ | ⟨next, front, back, rfl, first, later⟩
    · cases same
    obtain ⟨asked, arrivals, advances, less⟩ := (steps_of_run first).advances positive
    obtain ⟨last, asked', arrivals', advances', done, arrived_eq⟩ := ih later (by omega)
    exact ⟨last, _, _, advances.trans advances', done, arrived_eq⟩

/-- A download that breaks off names a chunk whose own range failed. -/
theorem run_fetch_error {plan : List Chunk} {steps : Nat} {fetching : Fetching} {failure : Failure}
    (run : Run (fetch key path total atOnce steps fetching) trace (.error failure))
    (planned : ∀ chunk ∈ fetching.underway ++ fetching.waiting, chunk ∈ plan) :
    ∃ chunk ∈ plan, ∃ reply,
      ⟨.endRange path chunk.start.toNat chunk.finish.toNat, reply⟩ ∈ trace ∧
      checkChunk key chunk reply = .error failure := by
  induction steps generalizing fetching trace with
  | zero => cases (run_pure_iff.mp run).2
  | succ steps ih =>
    rcases run_bind_iff.mp run with ⟨_, same, first⟩ | ⟨next, front, back, rfl, first, later⟩
    · obtain rfl := Except.error.inj same
      cases steps_of_run first with
      | breaks held wrong =>
        exact ⟨_, planned _ (List.mem_append_left _ held), _, by simp, wrong⟩
    · obtain ⟨chunk, mem, reply, answered, wrong⟩ := ih later (run_step first planned).1
      exact ⟨chunk, mem, reply, List.mem_append_right _ answered, wrong⟩

end Download

end GraphOffload

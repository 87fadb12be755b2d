import GraphOffload.Proofs.Runs.Counters
import GraphOffload.Proofs.Transfer.Downloads
import GraphOffload.Proofs.Transfer.Ordering
import GraphOffload.Proofs.Transfer.Planning
import Mathlib.Algebra.Order.BigOperators.Group.List

/-!
# The progress of a transfer

An upload in parts waits for acknowledgements, and a download for chunks; both come in any order, and
either may break off at any time. Of each piece that was moved the listener is told how many bytes were
moved so far. As no piece is moved twice, what is told grows with every piece, and is the whole when
none is left.

## Main definitions

* `GraphOffload.Trace.events`, `GraphOffload.Trace.moves` : what the listener was told in a trace, and
  the sizes of the pieces that were moved.
* `GraphOffload.runningTotals` : how many bytes were moved after each piece.
* `GraphOffload.Progresses` : some pieces are moved, and the listener is told of each.
* `GraphOffload.Settles` : so they are, and none is left if an outcome is given.

## Main results

* `GraphOffload.pairwise_runningTotals` : running totals grow up to the sum of all pieces.
* `GraphOffload.Upload.settles_sendParts` : an upload tells of the parts that are acknowledged.
* `GraphOffload.Download.progresses_fetch` : a download tells of the chunks that arrive.

## Design

Parts and chunks are moved in the same way, so both loops are followed with one relation. It says which
sizes were pending and which still are, and speaks of no plan and no store.
-/

namespace GraphOffload

open Attempting

/-! ### Events and pieces -/

namespace Exchange

/-- What the listener is told in an exchange. -/
def event? : Exchange → Option TransferEvent
  | ⟨.notify event, _⟩ => some event
  | _ => none

/-- The size of the piece that was moved in an exchange: a part that is acknowledged, or a range that
arrived with as many bytes as were asked for. -/
def moved? : Exchange → Option Nat
  | ⟨.endPart part, .ok ()⟩ => some part.length.toNat
  | ⟨.endRange _ start finish, .ok data⟩ =>
    if data.length = finish - start then some data.length else none
  | _ => none

/-- Nothing is moved, told or counted in the exchange. -/
structure Quiet (exchange : Exchange) : Prop where
  untold : exchange.event? = none
  unmoved : exchange.moved? = none
  uncounted : exchange.Uncounted

end Exchange

namespace Trace

variable {front back : Trace}

/-- What the listener was told in a trace. -/
def events (trace : Trace) : List TransferEvent := trace.filterMap Exchange.event?

/-- The sizes of the pieces that were moved in a trace. -/
def moves (trace : Trace) : List Nat := trace.filterMap Exchange.moved?

/-- Without calls the listener is told nothing. -/
@[simp] theorem events_nil : events [] = [] := rfl

/-- Without calls nothing is moved. -/
@[simp] theorem moves_nil : moves [] = [] := rfl

/-- What the listener is told in two traces is what it is told in each. -/
@[simp] theorem events_append : events (front ++ back) = front.events ++ back.events :=
  List.filterMap_append

/-- What is moved in two traces is what is moved in each. -/
@[simp] theorem moves_append : moves (front ++ back) = front.moves ++ back.moves :=
  List.filterMap_append

end Trace

/-- Nothing is moved in quiet exchanges. -/
theorem Trace.moves_eq_nil {trace : Trace} (quiet : ∀ exchange ∈ trace, exchange.Quiet) :
    trace.moves = [] :=
  List.filterMap_eq_nil_iff.mpr fun exchange mem => (quiet exchange mem).unmoved

/-- Nothing is told in quiet exchanges. -/
theorem Trace.events_eq_nil {trace : Trace} (quiet : ∀ exchange ∈ trace, exchange.Quiet) :
    trace.events = [] :=
  List.filterMap_eq_nil_iff.mpr fun exchange mem => (quiet exchange mem).untold

/-! ### Running totals -/

/-- How many bytes were moved after each of some pieces, from so many on. -/
def runningTotals (moved : Nat) : List Nat → List Nat
  | [] => []
  | size :: sizes => (moved + size) :: runningTotals (moved + size) sizes

/-- The totals run on from the sum of what came before. -/
theorem runningTotals_append (moved : Nat) (front back : List Nat) :
    runningTotals moved (front ++ back) =
      runningTotals moved front ++ runningTotals (moved + front.sum) back := by
  induction front generalizing moved with
  | nil => rfl
  | cons size sizes ih =>
    rw [List.cons_append, runningTotals, ih, runningTotals, List.cons_append, List.sum_cons,
      Nat.add_assoc]

/-- The running totals grow if no piece is empty, up to the sum of all. -/
theorem pairwise_runningTotals {sizes : List Nat} (positive : ∀ size ∈ sizes, 0 < size) (moved : Nat) :
    (moved :: runningTotals moved sizes).Pairwise (· < ·) ∧
      (∀ count ∈ runningTotals moved sizes, count ≤ moved + sizes.sum) ∧
      (runningTotals moved sizes).getLast? = if sizes = [] then none else some (moved + sizes.sum) := by
  induction sizes generalizing moved with
  | nil => exact ⟨List.pairwise_singleton _ _, by simp [runningTotals], rfl⟩
  | cons size sizes ih =>
    obtain ⟨first, others⟩ := List.forall_mem_cons.mp positive
    obtain ⟨increasing, bounded, last⟩ := ih others (moved + size)
    have later := (List.pairwise_cons.mp increasing).1
    simp only [runningTotals, List.sum_cons, ← Nat.add_assoc]
    refine ⟨List.pairwise_cons.mpr ⟨?_, increasing⟩, ?_, ?_⟩
    · refine List.forall_mem_cons.mpr ⟨by omega, fun count mem => ?_⟩
      have := later count mem
      omega
    · exact List.forall_mem_cons.mpr ⟨by omega, bounded⟩
    · rw [List.getLast?_cons, last]
      cases sizes with
      | nil => rfl
      | cons next sizes => simp

/-! ### Pieces on their way -/

/-- Of the pieces of the given sizes some are moved and others are left, and the listener is told of
each that is moved how many bytes were moved so far. -/
structure Progresses (key : String) (total moved : Nat) (pending : List Nat) (trace : Trace)
    (left : List Nat) : Prop where
  perm : pending.Perm (trace.moves ++ left)
  events_eq : trace.events = (runningTotals moved trace.moves).map (.progress key · total)
  uncounted : ∀ exchange ∈ trace, exchange.Uncounted

namespace Progresses

variable {key : String} {total moved : Nat} {pending middle left : List Nat} {front back trace : Trace}

/-- Quiet exchanges leave all pieces where they are. -/
theorem of_quiet (quiet : ∀ exchange ∈ trace, exchange.Quiet) :
    Progresses key total moved pending trace pending := by
  refine ⟨?_, ?_, fun exchange mem => (quiet exchange mem).uncounted⟩
  · rw [Trace.moves_eq_nil quiet]
    exact .refl _
  · rw [Trace.events_eq_nil quiet, Trace.moves_eq_nil quiet]
    rfl

/-- Where nothing happens all pieces stay where they are. -/
theorem refl : Progresses key total moved pending [] pending := of_quiet (by simp)

/-- **Progress adds up**: what the first leaves is pending for the second, which counts on from its
total. -/
theorem trans (h : Progresses key total moved pending front middle)
    (h' : Progresses key total (moved + front.moves.sum) middle back left) :
    Progresses key total moved pending (front ++ back) left where
  perm := by
    rw [Trace.moves_append, List.append_assoc]
    exact h.perm.trans (h'.perm.append_left _)
  events_eq := by
    rw [Trace.events_append, h.events_eq, h'.events_eq, Trace.moves_append, runningTotals_append,
      List.map_append]
  uncounted := List.forall_mem_append.mpr ⟨h.uncounted, h'.uncounted⟩

/-- What comes before and is quiet does not matter. -/
theorem cons {exchange : Exchange} (quiet : exchange.Quiet)
    (h : Progresses key total moved pending trace left) :
    Progresses key total moved pending (exchange :: trace) left := by
  have first : Progresses key total moved pending [exchange] pending :=
    of_quiet (List.forall_mem_singleton.mpr quiet)
  have none_moved : Trace.moves [exchange] = [] := List.filterMap_cons_none quiet.unmoved
  refine first.trans ?_
  rw [none_moved]
  exact h

/-- More pieces may be waiting. -/
theorem append (h : Progresses key total moved pending trace left) (more : List Nat) :
    Progresses key total moved (pending ++ more) trace (left ++ more) where
  perm := by
    rw [← List.append_assoc]
    exact h.perm.append_right more
  events_eq := h.events_eq
  uncounted := h.uncounted

/-- The pieces that were moved and those that are left are together what was pending. -/
theorem sum_eq (h : Progresses key total moved pending trace left) :
    trace.moves.sum + left.sum = pending.sum := by
  rw [h.perm.sum_nat, List.sum_append_nat]

/-- Only pieces that were pending are moved. -/
theorem mem_pending (h : Progresses key total moved pending trace left) :
    ∀ size ∈ trace.moves, size ∈ pending :=
  fun _ mem => h.perm.mem_iff.mpr (List.mem_append_left _ mem)

end Progresses

/-- Some of the pending pieces are moved, and all of them if an outcome is given: it is then the
number of bytes moved so far. -/
def Settles (key : String) (total moved : Nat) (pending : List Nat) (trace : Trace)
    (outcome : Except Failure Nat) : Prop :=
  ∃ left, Progresses key total moved pending trace left ∧
    ∀ sent, outcome = .ok sent → left = [] ∧ sent = moved + trace.moves.sum

namespace Settles

variable {key : String} {total moved : Nat} {pending middle : List Nat} {front back : Trace}
  {outcome : Except Failure Nat} {failure : Failure}

/-- What fails may leave any of the pieces. -/
theorem of_error (h : ∃ left, Progresses key total moved pending front left) :
    Settles key total moved pending front (.error failure) :=
  h.imp fun _ progresses => ⟨progresses, nofun⟩

/-- What was moved before is counted first. -/
theorem prepend (h : Progresses key total moved pending front middle)
    (h' : Settles key total (moved + front.moves.sum) middle back outcome) :
    Settles key total moved pending (front ++ back) outcome := by
  obtain ⟨left, progresses, settled⟩ := h'
  refine ⟨left, h.trans progresses, fun sent same => ?_⟩
  obtain ⟨rfl, rfl⟩ := settled sent same
  rw [Trace.moves_append, List.sum_append_nat, Nat.add_assoc]
  exact ⟨rfl, rfl⟩

/-- What comes after and is quiet does not matter, but that it may fail. -/
theorem append {outcome' : Except Failure Nat} (h : Settles key total moved pending front outcome)
    (quiet : ∀ exchange ∈ back, exchange.Quiet)
    (kept : ∀ sent, outcome' = .ok sent → outcome = .ok sent) :
    Settles key total moved pending (front ++ back) outcome' := by
  obtain ⟨left, progresses, settled⟩ := h
  refine ⟨left, progresses.trans (.of_quiet quiet), fun sent same => ?_⟩
  rw [Trace.moves_append, Trace.moves_eq_nil quiet, List.append_nil]
  exact settled sent (kept sent same)

end Settles

/-! ### Parts -/

namespace Upload

variable {key : String} {total atOnce : Nat} {flight : Flight} {trace : Trace}

/-- The sizes of parts. -/
def sizes (parts : List Part) : List Nat := parts.map fun part => part.length.toNat

/-- One part is acknowledged, whichever it is, and the listener is told.

**Proof sketch.** By whether a part is under way. If one is, the world chooses which of them is waited
for; its size is moved if the store has it, and the listener is told the new total. -/
theorem progresses_acknowledge {outcome : Except Failure Flight}
    (run : Run (acknowledge key total flight) trace outcome) :
    ∃ left, Progresses key total flight.sent (sizes flight.underway) trace left ∧
      ∀ next, outcome = .ok next →
        left = sizes next.underway ∧ next.sent = flight.sent + trace.moves.sum ∧
          next.underway.length = flight.underway.length - 1 := by
  obtain ⟨underway, sent⟩ := flight
  cases underway with
  | nil =>
    obtain ⟨rfl, rfl⟩ := run_pure_iff.mp run
    refine ⟨[], .refl, ?_⟩
    rintro _ ⟨⟩
    exact ⟨rfl, rfl, rfl⟩
  | cons oldest others =>
    obtain ⟨index, rest, rfl, waiting⟩ := run_attempt_ok_bind_iff.mp run
    obtain ⟨reply, rest, rfl, ended⟩ := run_attempt_bind_iff.mp waiting
    have chosen : Exchange.Quiet ⟨.choose others.length, index⟩ := ⟨rfl, rfl, rfl⟩
    cases reply with
    | error error =>
      obtain ⟨rfl, rfl⟩ := ended
      refine ⟨sizes (oldest :: others), ?_, nofun⟩
      exact .cons chosen (.of_quiet (List.forall_mem_singleton.mpr ⟨rfl, rfl, rfl⟩))
    | ok acknowledged =>
      obtain ⟨rest, rfl, told⟩ := run_notify_bind_iff.mp ended
      obtain ⟨rfl, rfl⟩ := run_pure_iff.mp told
      refine ⟨sizes ((oldest :: others).eraseIdx index), .cons chosen ⟨?_, rfl, ?_⟩, ?_⟩
      · have whole := List.getElem_cons_eraseIdx_perm (l := oldest :: others) index.isLt
        exact (whole.map _).symm
      · exact List.forall_mem_cons.mpr ⟨rfl, List.forall_mem_singleton.mpr rfl⟩
      · rintro _ ⟨⟩
        exact ⟨rfl, rfl, List.length_eraseIdx_of_lt index.isLt⟩

/-- When as many parts were waited for as are under way, all of them were moved. -/
theorem settles_acknowledgeAll {count : Nat} {outcome : Except Failure Nat}
    (run : Run (acknowledgeAll key total count flight) trace outcome)
    (all : count = flight.underway.length) :
    Settles key total flight.sent (sizes flight.underway) trace outcome := by
  induction count generalizing flight trace with
  | zero =>
    obtain ⟨rfl, rfl⟩ := run_pure_iff.mp run
    have none_left : flight.underway = [] := List.length_eq_zero_iff.mp all.symm
    refine ⟨[], ?_, ?_⟩
    · rw [none_left]
      exact .refl
    · rintro _ ⟨⟩
      exact ⟨rfl, rfl⟩
  | succ count ih =>
    rcases run_bind_iff.mp run with ⟨failure, rfl, first⟩ | ⟨next, front, back, rfl, first, later⟩
    · exact .of_error ((progresses_acknowledge first).imp fun _ => And.left)
    · obtain ⟨left, progresses, follows⟩ := progresses_acknowledge first
      obtain ⟨rfl, sent_eq, fewer⟩ := follows next rfl
      exact .prepend progresses (sent_eq ▸ ih later (by omega))

/-- Beginning to read parts moves nothing. -/
theorem quiet_beginReads {parts : List Part} {outcome : Except Failure Unit}
    (run : Run (beginReads key parts) trace outcome) : ∀ exchange ∈ trace, exchange.Quiet := by
  induction parts generalizing trace with
  | nil =>
    obtain ⟨rfl, _⟩ := run_pure_iff.mp run
    simp
  | cons part parts ih =>
    obtain ⟨_, rest, rfl, others⟩ := run_attempt_ok_bind_iff.mp run
    exact List.forall_mem_cons.mpr ⟨⟨rfl, rfl, rfl⟩, ih others⟩

/-- Where too many parts are under way, one is waited for. -/
theorem settles_mayAcknowledge {goOn : Flight → Attempting Nat} {outcome : Except Failure Nat}
    {waiting : List Nat}
    (run : Run (if atOnce ≤ flight.underway.length then acknowledge key total flight >>= goOn
      else pure flight >>= goOn) trace outcome)
    (goesOn : ∀ next back, Run (goOn next) back outcome →
      Settles key total next.sent (sizes next.underway ++ waiting) back outcome) :
    Settles key total flight.sent (sizes flight.underway ++ waiting) trace outcome := by
  split at run
  · rcases run_bind_iff.mp run with ⟨failure, rfl, first⟩ | ⟨next, front, back, rfl, first, later⟩
    · obtain ⟨left, progresses, _⟩ := progresses_acknowledge first
      exact .of_error ⟨_, progresses.append waiting⟩
    · obtain ⟨left, progresses, follows⟩ := progresses_acknowledge first
      obtain ⟨rfl, sent_eq, _⟩ := follows next rfl
      exact .prepend (progresses.append waiting) (sent_eq ▸ goesOn next back later)
  · exact goesOn flight trace run

/-- **All parts are moved if they are sent without a failure**, and the listener is told of each that is
acknowledged.

**Proof sketch.** Induction on the parts that are left. One that was read is under way from then on; one
that is acknowledged is told of. At the end the parts under way are waited for. -/
theorem settles_sendParts {parts ahead : List Part} {outcome : Except Failure Nat}
    (run : Run (sendParts key total atOnce parts ahead flight) trace outcome) :
    Settles key total flight.sent (sizes flight.underway ++ sizes parts) trace outcome := by
  induction parts generalizing ahead flight trace with
  | nil =>
    rw [sizes, sizes, List.map_nil, List.append_nil]
    exact settles_acknowledgeAll run rfl
  | cons part parts ih =>
    obtain ⟨reply, rest, rfl, sending⟩ := run_attempt_bind_iff.mp run
    cases reply with
    | error failure =>
      obtain ⟨rfl, rfl⟩ := sending
      exact .of_error ⟨_, .of_quiet (List.forall_mem_singleton.mpr ⟨rfl, rfl, rfl⟩)⟩
    | ok bytes =>
      obtain ⟨_, rest, rfl, begun⟩ := run_attempt_ok_bind_iff.mp sending
      have quiet : ∀ exchange ∈ ([⟨.endRead key part, .ok bytes⟩,
          ⟨.beginPart part bytes.val, ()⟩] : Trace), exchange.Quiet :=
        List.forall_mem_cons.mpr
          ⟨⟨rfl, rfl, rfl⟩, List.forall_mem_singleton.mpr ⟨rfl, rfl, rfl⟩⟩
      have pending_eq : sizes flight.underway ++ sizes (part :: parts) =
          sizes (flight.underway ++ [part]) ++ sizes parts := by
        simp [sizes]
      rw [pending_eq]
      refine .prepend (.of_quiet quiet) (settles_mayAcknowledge begun fun next back reading => ?_)
      rcases run_bind_iff.mp reading with ⟨failure, rfl, begins⟩ | ⟨_, front, back, rfl, begins, loop⟩
      · exact .of_error ⟨_, .of_quiet (quiet_beginReads begins)⟩
      · refine .prepend (.of_quiet (quiet_beginReads begins)) ?_
        rw [Trace.moves_eq_nil (quiet_beginReads begins)]
        exact ih loop

/-- No part of a plan is empty, and all of them are the whole. -/
theorem sizes_plan (size partSize : UInt64) :
    (∀ count ∈ sizes (Part.plan size partSize), 0 < count) ∧
      (sizes (Part.plan size partSize)).sum = size.toNat := by
  have tiles := Part.tiles_plan size partSize
  have sizes_eq : sizes (Part.plan size partSize) =
      ((Part.plan size partSize).map Part.extent).map Prod.snd := by
    rw [List.map_map]
    rfl
  rw [sizes_eq]
  exact ⟨List.forall_mem_map.mpr tiles.nonempty, (Nat.zero_add _).symm.trans tiles.sum_eq⟩

/-- Nothing is left of an upload in parts when it is completed. -/
theorem settles_sendAndComplete {options : TransferOptions} {size : UInt64}
    {outcome : Except Failure Nat} (run : Run (sendAndComplete options key size) trace outcome) :
    Settles key size.toNat 0 (sizes (Part.plan size options.partSize)) trace outcome := by
  rcases run_bind_iff.mp run with ⟨failure, rfl, begins⟩ | ⟨_, front, rest, rfl, begins, run₁⟩
  · exact .of_error ⟨_, .of_quiet (quiet_beginReads begins)⟩
  refine .prepend (.of_quiet (quiet_beginReads begins)) ?_
  rw [Trace.moves_eq_nil (quiet_beginReads begins)]
  rcases run_bind_iff.mp run₁ with ⟨failure, rfl, sending⟩ | ⟨sent, sends, rest, rfl, sending, run₂⟩
  · exact settles_sendParts sending
  · obtain ⟨reply, rest, rfl, completed⟩ := run_attempt_bind_iff.mp run₂
    cases reply with
    | error error =>
      obtain ⟨rfl, rfl⟩ := completed
      exact (settles_sendParts sending).append (List.forall_mem_singleton.mpr ⟨rfl, rfl, rfl⟩) (by rintro _ ⟨⟩)
    | ok done =>
      obtain ⟨rfl, rfl⟩ := run_pure_iff.mp completed
      exact (settles_sendParts sending).append (List.forall_mem_singleton.mpr ⟨rfl, rfl, rfl⟩)
        fun _ same => same

/-- All parts of a plan are moved if the upload in parts is completed.

**Proof sketch.** By the reply to the opening, and then by how the sending ends: opening and abort move
nothing. -/
theorem settles_inParts {options : TransferOptions} {size : UInt64} {outcome : Except Failure Nat}
    (run : Run (inParts options key size) trace outcome) :
    Settles key size.toNat 0 (sizes (Part.plan size options.partSize)) trace outcome := by
  rw [inParts, BlobStore.pathOf] at run
  cases parsed : ObjectPath.parse key with
  | error error =>
    rw [parsed] at run
    obtain ⟨rfl, rfl⟩ := run_ofExcept_bind_iff.mp run
    exact .of_error ⟨_, .refl⟩
  | ok path =>
    rw [parsed] at run
    obtain ⟨reply, rest, rfl, opened⟩ := run_attempt_bind_iff.mp (run_ofExcept_bind_iff.mp run)
    have opening : ∀ exchange ∈ ([⟨.openUpload path, reply⟩] : Trace), exchange.Quiet :=
      List.forall_mem_singleton.mpr ⟨rfl, rfl, rfl⟩
    cases reply with
    | error error =>
      obtain ⟨rfl, rfl⟩ := opened
      exact .of_error ⟨_, .of_quiet opening⟩
    | ok done =>
      refine .prepend (.of_quiet opening) ?_
      rcases run_orAbort_iff.mp opened with ⟨sent, rfl, sending⟩ |
        ⟨failure, front, reply, rfl, rfl, sending⟩
      · exact settles_sendAndComplete sending
      · exact (settles_sendAndComplete sending).append
          (List.forall_mem_singleton.mpr ⟨rfl, rfl, rfl⟩) (by rintro _ ⟨⟩)

/-- Nothing is told of bytes that are put in one piece, and all of them are put. -/
theorem quiet_putWhole {data : Bytes} {outcome : Except Failure Nat}
    (run : Run (putWhole key data) trace outcome) :
    (∀ exchange ∈ trace, exchange.Quiet) ∧ ∀ sent, outcome = .ok sent → sent = data.length := by
  rw [putWhole, BlobStore.pathOf] at run
  cases parsed : ObjectPath.parse key with
  | error error =>
    rw [parsed] at run
    obtain ⟨rfl, rfl⟩ := run_ofExcept_bind_iff.mp run
    exact ⟨by simp, by rintro _ ⟨⟩⟩
  | ok path =>
    rw [parsed] at run
    obtain ⟨reply, rfl, rfl⟩ := run_attempt_iff.mp (run_ofExcept_bind_iff.mp run)
    refine ⟨List.forall_mem_singleton.mpr ⟨rfl, rfl, rfl⟩, fun sent same => ?_⟩
    cases reply with
    | error error => cases same
    | ok done => exact (Except.ok.inj same).symm

/-- Nothing is told of bytes that are read and put in one piece, and all of them are put. -/
theorem quiet_inOnePiece {size : UInt64} {outcome : Except Failure Nat}
    (run : Run (inOnePiece key size) trace outcome) :
    (∀ exchange ∈ trace, exchange.Quiet) ∧ ∀ sent, outcome = .ok sent → sent = size.toNat := by
  obtain ⟨_, rest, rfl, run₁⟩ := run_attempt_ok_bind_iff.mp run
  obtain ⟨reply, rest, rfl, run₂⟩ := run_attempt_bind_iff.mp run₁
  have reading : ∀ exchange ∈ ([⟨.beginRead key ⟨0, 0, size⟩, ()⟩,
      ⟨.endRead key ⟨0, 0, size⟩, reply⟩] : Trace), exchange.Quiet :=
    List.forall_mem_cons.mpr ⟨⟨rfl, rfl, rfl⟩, List.forall_mem_singleton.mpr ⟨rfl, rfl, rfl⟩⟩
  cases reply with
  | error failure =>
    obtain ⟨rfl, rfl⟩ := run₂
    exact ⟨reading, by rintro _ ⟨⟩⟩
  | ok data =>
    obtain ⟨quiet, whole⟩ := quiet_putWhole run₂
    exact ⟨List.forall_mem_append.mpr ⟨reading, quiet⟩,
      fun sent same => (whole sent same).trans data.property⟩

end Upload

/-! ### Chunks -/

/-- The lengths of the chunks of a plan add up to no more than the size of the object, even if the ends
of some do not fit into words. -/
theorem Chunk.sum_length_plan_le (size chunkSize : UInt64) :
    ((Chunk.plan size chunkSize).map Chunk.length).sum ≤ size.toNat := by
  have step_eq : (max chunkSize 1).toNat = max chunkSize.toNat 1 := Word64.toNat_max _ _
  have positive : 0 < (max chunkSize 1).toNat := by omega
  have count_eq := Word64.toNat_ceilDiv size (max chunkSize 1) positive
  have tiles : Tiles 0 size.toNat (cut size.toNat _ (cutCount size.toNat _)) := tiles_cut positive
  have sum_eq := tiles.sum_eq
  rw [Nat.zero_add, cut, List.map_map, ← count_eq] at sum_eq
  rw [← sum_eq, Chunk.plan, List.map_map]
  refine List.sum_le_sum fun index mem => ?_
  rw [List.mem_range, count_eq] at mem
  have below := (cutCount_spec _ positive).2 index mem
  have start_eq := Word64.toNat_ofNat_mul positive below (Nat.le_of_lt size.toNat_lt)
  have sum_le := Nat.mod_le (index * (max chunkSize 1).toNat + (max chunkSize 1).toNat) (2 ^ 64)
  simp only [Function.comp_apply, Chunk.length, Word64.toNat_min, UInt64.toNat_add, start_eq]
  omega

namespace Download

variable {key : String} {path : ObjectPath} {total atOnce : Nat} {trace : Trace}

/-- The lengths of the chunks that did not arrive yet. -/
def Fetching.pending (fetching : Fetching) : List Nat :=
  (fetching.underway ++ fetching.waiting).map Chunk.length

/-- A step moves a chunk and tells of it, or moves none.

**Proof sketch.** By what the step does. Only a chunk that comes whole is moved, and the listener is
told of it at once. -/
theorem Steps.progresses {fetching : Fetching} {outcome : Except Failure Fetching}
    (steps : Steps key path total atOnce fetching trace outcome) :
    ∃ left, Progresses key total fetching.moved fetching.pending trace left ∧
      ∀ next, outcome = .ok next →
        left = next.pending ∧ next.moved = fetching.moved + trace.moves.sum := by
  cases steps with
  | @asks chunk later others index waits room =>
    have quiet : ∀ exchange ∈ ([⟨.choose others, index⟩,
        ⟨.beginRange path chunk.start.toNat chunk.finish.toNat, ()⟩] : Trace), exchange.Quiet :=
      List.forall_mem_cons.mpr ⟨⟨rfl, rfl, rfl⟩, List.forall_mem_singleton.mpr ⟨rfl, rfl, rfl⟩⟩
    refine ⟨fetching.pending, .of_quiet quiet, ?_⟩
    rintro next ⟨⟩
    rw [Trace.moves_eq_nil quiet]
    simp [Fetching.pending, waits]
  | @takes chunk data front back others index held whole =>
    have arrives : Exchange.moved? ⟨.endRange path chunk.start.toNat chunk.finish.toNat, .ok data⟩ =
        some data.length := if_pos whole
    have moves_eq : Trace.moves [⟨.choose others, index⟩,
        ⟨.endRange path chunk.start.toNat chunk.finish.toNat, .ok data⟩,
        ⟨.notify (.progress key (fetching.moved + data.length) total), ()⟩] = [data.length] :=
      (List.filterMap_cons_none rfl).trans (List.filterMap_cons_some arrives)
    refine ⟨(front ++ back ++ fetching.waiting).map Chunk.length, ⟨?_, ?_, ?_⟩, ?_⟩
    · rw [moves_eq, whole]
      simp only [Fetching.pending, held, List.append_assoc, List.cons_append, List.map_append,
        List.map_cons]
      exact List.perm_middle
    · rw [moves_eq]
      rfl
    · exact List.forall_mem_cons.mpr
        ⟨rfl, List.forall_mem_cons.mpr ⟨rfl, List.forall_mem_singleton.mpr rfl⟩⟩
    · rintro next ⟨⟩
      rw [moves_eq]
      exact ⟨rfl, rfl⟩
  | @breaks chunk reply failure others index held wrong =>
    have lost :
        Exchange.moved? ⟨.endRange path chunk.start.toNat chunk.finish.toNat, reply⟩ = none := by
      have fails := (checkChunk_eq_error path wrong).1
      cases reply with
      | error error => rfl
      | ok data => exact if_neg fails
    refine ⟨fetching.pending, .of_quiet ?_, nofun⟩
    exact List.forall_mem_cons.mpr
      ⟨⟨rfl, rfl, rfl⟩, List.forall_mem_singleton.mpr ⟨rfl, lost, rfl⟩⟩
  | rests landed idle =>
    refine ⟨fetching.pending, .of_quiet (List.forall_mem_singleton.mpr ⟨rfl, rfl, rfl⟩), ?_⟩
    rintro next ⟨⟩
    exact ⟨rfl, rfl⟩

/-- **All chunks are moved if they are fetched without a failure**, and the listener is told of each
that arrives.

**Proof sketch.** Induction on the steps; there are as many as are needed. -/
theorem progresses_fetch {steps : Nat} {fetching : Fetching}
    {outcome : Except Failure (List (Nat × Bytes))}
    (run : Run (fetch key path total atOnce steps fetching) trace outcome) (positive : 0 < atOnce)
    (enough : fetching.stepsLeft ≤ steps) :
    ∃ left, Progresses key total fetching.moved fetching.pending trace left ∧
      ∀ arrived, outcome = .ok arrived → left = [] := by
  induction steps generalizing fetching trace with
  | zero =>
    obtain ⟨rfl, _⟩ := run_pure_iff.mp run
    rw [Fetching.stepsLeft] at enough
    have none_waits : fetching.waiting = [] := List.length_eq_zero_iff.mp (by omega)
    have none_flies : fetching.underway = [] := List.length_eq_zero_iff.mp (by omega)
    refine ⟨[], ?_, fun _ _ => rfl⟩
    rw [Fetching.pending, none_waits, none_flies]
    exact .refl
  | succ steps ih =>
    rcases run_bind_iff.mp run with ⟨failure, rfl, first⟩ | ⟨next, front, back, rfl, first, later⟩
    · obtain ⟨left, progresses, _⟩ := (steps_of_run first).progresses
      exact ⟨left, progresses, by rintro _ ⟨⟩⟩
    · obtain ⟨_, progresses, follows⟩ := (steps_of_run first).progresses
      obtain ⟨rfl, moved_eq⟩ := follows next rfl
      obtain ⟨_, _, _, fewer⟩ := (steps_of_run first).advances positive
      obtain ⟨left, progresses', settled⟩ := ih later (by omega)
      exact ⟨left, progresses.trans (moved_eq ▸ progresses'), settled⟩

/-- A chunk that is moved is a range that was fetched. -/
theorem exists_range_of_mem_moves {chunks : List Chunk} {outcome : Except Failure (List (Nat × Bytes))}
    (run : Run (fetchAll key path total atOnce chunks) trace outcome)
    (parsed : ObjectPath.parse key = .ok path) :
    ∀ size ∈ trace.moves, ∃ range ∈ trace.ranges, size = range.finish - range.start := by
  intro size mem
  obtain ⟨exchange, came, moved⟩ := List.mem_filterMap.mp mem
  have fetches := run.forall_within (within_fetchAll parsed total atOnce chunks) exchange came
  obtain ⟨call, reply⟩ := exchange
  cases call with
  | endPart part => cases fetches
  | endRange there start finish =>
    cases reply with
    | error error => cases moved
    | ok data =>
      simp only [Exchange.moved?, Option.ite_none_right_eq_some, Option.some.injEq] at moved
      exact ⟨⟨there, start, finish, data⟩, List.mem_filterMap.mpr ⟨_, came, rfl⟩,
        moved.2.symm.trans moved.1⟩
  | _ => cases moved

/-- As many bytes are written as the chunks of the plan have.

**Proof sketch.** The chunks that arrived are those of the plan in some order, each with as many bytes
(`run_fetchAll_ok`). To put them into their order, and to write them one after the other, keeps the sum.
-/
theorem written_eq {options : TransferOptions} {size : UInt64} {arrived : List (Nat × Bytes)}
    {writes : Trace} {written : Nat}
    (fetching : Run (fetchAll key path size.toNat options.atOnce (Chunk.plan size options.chunkSize))
      trace (.ok arrived))
    (writing : Run (writeInOrder key arrived (Chunk.plan size options.chunkSize).length) writes
      (.ok written)) :
    written = ((Chunk.plan size options.chunkSize).map Chunk.length).sum := by
  obtain ⟨arrivals, perm, whole, rfl, _⟩ := run_fetchAll_ok fetching (Nat.le_max_right _ _)
  have once : ArrivedOnce (Chunk.plan size options.chunkSize).length
      (arrivals.map fun arrival => (arrival.1.index, arrival.2)) := by
    have numbers := perm.map Chunk.index
    rw [Chunk.map_index_plan, List.map_map] at numbers
    rw [ArrivedOnce, List.map_map]
    exact numbers
  rcases run_writeInOrder_of_assembled writing (assemble_of_arrivedOnce once) with ⟨_, same, _⟩ |
    ⟨_, reply, _, _, same⟩
  · cases same
  have written_eq : written = ((ascending (arrivals.map fun arrival =>
      (arrival.1.index, arrival.2))).map Prod.snd).flatten.length := by
    cases reply with
    | error fault => cases same
    | ok done => exact Except.ok.inj same
  have sorted := List.perm_insertionSort NotAfter
    (arrivals.map fun arrival => (arrival.1.index, arrival.2))
  rw [written_eq, List.length_flatten, ascending, ((sorted.map Prod.snd).map List.length).sum_nat,
    ← (perm.map Chunk.length).sum_nat, List.map_map, List.map_map, List.map_map]
  exact congrArg List.sum (List.map_congr_left fun arrival mem => (whole arrival mem).2)

end Download

end GraphOffload

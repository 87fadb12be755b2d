import GraphOffload.Proofs.Runs.Calls
import GraphOffload.Transfer.Download
import Mathlib.Data.List.Infix

/-!
# What the sink receives

A sink takes as many of the bytes offered as it likes, and may fail at any time. The bytes that it
took in a trace are always a prefix of those that were to be written; they are all of them unless a
write or the flush fails.

## Main definitions

* `GraphOffload.Trace.sunk` : the bytes that the sink took in a trace.
* `GraphOffload.Exchange.SinkFails` : a write or a flush that fails.
* `GraphOffload.Exchange.sinkFault?` : the fault with which it fails.

## Main results

* `GraphOffload.Download.run_writeEach` : what was taken of byte strings that are written one after
  the other.
* `GraphOffload.Download.run_writeInOrder` : chunks are written in their order, or nothing is.
-/

namespace GraphOffload

open Attempting

/-! ### Sinks -/

/-- The bytes that the sink takes in an exchange. -/
def Exchange.taken : Exchange → Bytes
  | ⟨.write data, .ok taken⟩ => data.take taken.val
  | _ => []

/-- The bytes that the sink took in a trace. -/
def Trace.sunk (trace : Trace) : Bytes := trace.flatMap Exchange.taken

/-- Without calls nothing is sunk. -/
@[simp] theorem Trace.sunk_nil : Trace.sunk [] = [] := rfl

/-- What the sink takes in the first exchange comes first. -/
@[simp] theorem Trace.sunk_cons (exchange : Exchange) (rest : Trace) :
    Trace.sunk (exchange :: rest) = exchange.taken ++ rest.sunk := rfl

/-- What is sunk in two traces is what is sunk in each. -/
@[simp] theorem Trace.sunk_append (front back : Trace) :
    Trace.sunk (front ++ back) = front.sunk ++ back.sunk := List.flatMap_append

/-- A write or a flush fails: with an error, or because nothing is taken of the bytes offered. -/
def Exchange.SinkFails : Exchange → Prop
  | ⟨.write _, .error _⟩ | ⟨.flush, .error _⟩ => True
  | ⟨.write _, .ok taken⟩ => taken.val = 0
  | _ => False

/-- The fault with which a write or a flush fails. -/
def Exchange.sinkFault? : Exchange → Option Fault
  | ⟨.write _, .error fault⟩ | ⟨.flush, .error fault⟩ => some fault
  | ⟨.write _, .ok taken⟩ => if taken.val = 0 then some Fault.nothingWritten else none
  | _ => none

/-- A write fails if it has a fault. -/
theorem Exchange.sinkFails_of_sinkFault? {data : Bytes} {reply : (Call.write data).Reply} {fault : Fault}
    (found : sinkFault? ⟨.write data, reply⟩ = some fault) : SinkFails ⟨.write data, reply⟩ := by
  cases reply with
  | error fault => trivial
  | ok taken =>
    by_contra some_taken
    simp only [SinkFails] at some_taken
    simp [sinkFault?, some_taken] at found

namespace Download

variable {trace : Trace} {data : Bytes} {key : String}

/-- A write offers all bytes, and what is not taken is written after it. -/
theorem run_writeAll_of_ne_nil {outcome : Except Failure Unit} (nonempty : data ≠ [])
    (run : Run (writeAll data) trace outcome) :
    ∃ reply rest, trace = ⟨.write data, reply⟩ :: rest ∧
      ((rest = [] ∧ Exchange.taken ⟨.write data, reply⟩ = [] ∧
          ∃ fault, Exchange.sinkFault? ⟨.write data, reply⟩ = some fault ∧
            outcome = .error (.device fault)) ∨
        ∃ taken, reply = .ok taken ∧ 0 < taken.val ∧
          Run (writeAll (data.drop taken.val)) rest outcome) := by
  rw [writeAll, dif_neg nonempty] at run
  obtain ⟨reply, rest, rfl, run₁⟩ := Dialogue.run_request_bind_iff.mp run
  refine ⟨reply, rest, rfl, ?_⟩
  cases reply with
  | error fault =>
    obtain ⟨rfl, rfl⟩ := Dialogue.run_done_iff.mp run₁
    exact .inl ⟨rfl, rfl, fault, rfl, rfl⟩
  | ok taken =>
    dsimp only at run₁
    split at run₁
    · rename_i nothing
      obtain ⟨rfl, rfl⟩ := Dialogue.run_done_iff.mp run₁
      exact .inl ⟨rfl, by simp [Exchange.taken, nothing], _, if_pos nothing, rfl⟩
    · rename_i something
      exact .inr ⟨taken, rfl, by omega, run₁⟩

/-- What was taken of a byte string is a prefix of it, and all of it unless the sink failed.

**Proof sketch.** Induction on the number of bytes: what a write took, and what the later ones took of
the rest, are together a prefix. -/
theorem run_writeAll {outcome : Except Failure Unit} (run : Run (writeAll data) trace outcome) :
    (∀ done, outcome = .ok done → trace.sunk = data) ∧
    (∀ failure, outcome = .error failure →
      trace.sunk <+: data ∧ ∃ exchange ∈ trace, exchange.SinkFails) := by
  induction length : data.length using Nat.strong_induction_on generalizing data trace with
  | _ count ih =>
    by_cases nonempty : data = []
    · rw [writeAll, dif_pos nonempty] at run
      obtain ⟨rfl, rfl⟩ := run_pure_iff.mp run
      exact ⟨fun _ _ => nonempty.symm, nofun⟩
    obtain ⟨reply, rest, rfl, ⟨rfl, nothing, fault, found, rfl⟩ | ⟨taken, rfl, some_taken, later⟩⟩ :=
      run_writeAll_of_ne_nil nonempty run
    · refine ⟨nofun, fun _ _ => ⟨?_, _, List.mem_singleton_self _,
        Exchange.sinkFails_of_sinkFault? found⟩⟩
      simp [nothing]
    · have fewer : (data.drop taken.val).length < count := by
        have := List.length_pos_iff.mpr nonempty
        rw [List.length_drop]
        omega
      obtain ⟨all, part⟩ := ih _ fewer later rfl
      have split := List.take_append_drop taken.val data
      refine ⟨fun done same => ?_, fun failure same => ?_⟩
      · rw [Trace.sunk_cons, all done same]
        exact split
      · obtain ⟨takes, exchange, mem, fails⟩ := part failure same
        refine ⟨?_, exchange, List.mem_cons_of_mem _ mem, fails⟩
        rw [Trace.sunk_cons]
        exact ((List.prefix_append_right_inj _).mpr takes).trans (by rw [Exchange.taken, split])

/-- What was taken of byte strings that are written one after the other is a prefix of them, and all
of them unless the sink failed.

**Proof sketch.** Induction on the pieces: the first is taken as a whole before the next one is offered,
or the sink failed at it. -/
theorem run_writeEach {pieces : List Bytes} {outcome : Except Failure Nat}
    (run : Run (writeEach pieces) trace outcome) :
    (∀ written, outcome = .ok written → trace.sunk = pieces.flatten ∧ written = pieces.flatten.length) ∧
    (∀ failure, outcome = .error failure →
      trace.sunk <+: pieces.flatten ∧ ∃ exchange ∈ trace, exchange.SinkFails) := by
  induction pieces generalizing trace outcome with
  | nil =>
    obtain ⟨rfl, rfl⟩ := run_pure_iff.mp run
    exact ⟨fun _ same => ⟨rfl, (Except.ok.inj same).symm⟩, nofun⟩
  | cons data rest ih =>
    rcases run_bind_iff.mp run with ⟨failure, rfl, first⟩ | ⟨_, front, back, rfl, first, run₁⟩
    · refine ⟨nofun, fun _ _ => ?_⟩
      obtain ⟨takes, fails⟩ := (run_writeAll first).2 failure rfl
      exact ⟨takes.trans (List.prefix_append _ _), fails⟩
    have taken := (run_writeAll first).1 _ rfl
    rcases run_bind_iff.mp run₁ with ⟨failure, rfl, later⟩ | ⟨count, middle, back, rfl, later, run₂⟩
    · refine ⟨nofun, fun _ _ => ?_⟩
      obtain ⟨takes, exchange, mem, fails⟩ := (ih later).2 failure rfl
      refine ⟨?_, exchange, List.mem_append_right _ mem, fails⟩
      rw [Trace.sunk_append, taken]
      exact (List.prefix_append_right_inj _).mpr takes
    · obtain ⟨rfl, rfl⟩ := run_pure_iff.mp run₂
      obtain ⟨all, count_eq⟩ := (ih later).1 count rfl
      refine ⟨fun written same => ?_, nofun⟩
      obtain rfl := Except.ok.inj same
      simp [taken, all, count_eq]

/-- Chunks in their order are written one after the other, and when the sink took all of them it is
flushed. -/
theorem run_writeInOrder_of_assembled {chunks : List (Nat × Bytes)} {count : Nat}
    {ordered : List Bytes} {outcome : Except Failure Nat}
    (run : Run (writeInOrder key chunks count) trace outcome)
    (assembled : assemble count chunks = .ok ordered) :
    (∃ failure, outcome = .error failure ∧ Run (writeEach ordered) trace (.error failure)) ∨
    ∃ (writes : Trace) (reply : Call.flush.Reply), trace = writes ++ [⟨.flush, reply⟩] ∧
      Run (writeEach ordered) writes (.ok ordered.flatten.length) ∧
      outcome = (reply.mapError Failure.device).map fun _ => ordered.flatten.length := by
  have writing := run_ofExcept_bind_iff.mp run
  rw [assembled] at writing
  rcases run_bind_iff.mp writing with ⟨failure, rfl, offering⟩ |
    ⟨written, front, back, rfl, offering, run₁⟩
  · exact .inl ⟨failure, rfl, offering⟩
  obtain ⟨taken, rfl⟩ := (run_writeEach offering).1 written rfl
  obtain ⟨reply, rest, rfl, run₂⟩ := run_attempt_bind_iff.mp run₁
  refine .inr ⟨front, reply, ?_, offering, ?_⟩
  all_goals
    cases reply with
    | error fault =>
      obtain ⟨rfl, rfl⟩ := run₂
      rfl
    | ok done =>
      obtain ⟨rfl, rfl⟩ := run_pure_iff.mp run₂
      rfl

/-- Chunks are written in their order and flushed, or nothing is written.

**Proof sketch.** Before the first write the chunks are put in order. After it only the sink can
fail. -/
theorem run_writeInOrder {chunks : List (Nat × Bytes)} {count : Nat} {outcome : Except Failure Nat}
    (run : Run (writeInOrder key chunks count) trace outcome) :
    (trace = [] ∧ ∃ failure, outcome = .error failure) ∨
    ∃ ordered, assemble count chunks = .ok ordered ∧
      (∀ written, outcome = .ok written → trace.sunk = ordered.flatten ∧
        written = ordered.flatten.length) ∧
      (∀ failure, outcome = .error failure →
        trace.sunk <+: ordered.flatten ∧ ∃ exchange ∈ trace, exchange.SinkFails) := by
  cases assembled : assemble count chunks with
  | error fault =>
    have assembling := run_ofExcept_bind_iff.mp run
    rw [assembled] at assembling
    obtain ⟨rfl, rfl⟩ := assembling
    exact .inl ⟨rfl, _, rfl⟩
  | ok ordered =>
    refine .inr ⟨ordered, rfl, ?_⟩
    obtain ⟨failure, rfl, writing⟩ | ⟨writes, reply, rfl, writing, rfl⟩ :=
      run_writeInOrder_of_assembled run assembled
    · exact ⟨nofun, (run_writeEach writing).2⟩
    have taken := ((run_writeEach writing).1 _ rfl).1
    have sunk_eq : Trace.sunk (writes ++ [⟨.flush, reply⟩]) = ordered.flatten := by
      simp [taken, Exchange.taken]
    cases reply with
    | error fault =>
      refine ⟨nofun, fun _ _ => ⟨?_, ⟨.flush, .error fault⟩, by simp, trivial⟩⟩
      rw [sunk_eq]
    | ok done =>
      refine ⟨fun _ same => ?_, nofun⟩
      obtain rfl := Except.ok.inj same
      exact ⟨sunk_eq, rfl⟩

end Download

end GraphOffload

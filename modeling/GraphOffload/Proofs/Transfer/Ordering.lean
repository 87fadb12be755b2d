import GraphOffload.Proofs.Build.Calls
import GraphOffload.Proofs.Transfer.Fetching
import GraphOffload.Proofs.Transfer.Writing
import GraphOffload.Simulation.World
import Mathlib.Data.List.Sort

/-!
# Chunks in any order

The chunks of a download arrive in any order. They are checked before the first of them is written, and
written in ascending order of their index, so that the order of their arrival cannot be told from what
the sink receives.

## Main definitions

* `GraphOffload.Download.ArrivedOnce` : each of the expected chunks arrived once, and nothing else.
* `GraphOffload.Download.Misplaced` : what is wrong with chunks that did not.
* `GraphOffload.Download.joined` : the bytes of chunks in ascending order of their index.
* `GraphOffload.Download.WritesWhole` : how the writing of bytes to a sink goes.

## Main results

* `GraphOffload.Download.assemble_of_arrivedOnce` : chunks that arrived once are put in ascending order.
* `GraphOffload.Download.misplaced_of_assemble` : the chunk that is named when they are not.
* `GraphOffload.Download.writeInOrder_inAnyOrder` : chunks are written in order, or nothing is.
-/

namespace GraphOffload.Download

open Attempting

variable {key : String} {count : Nat} {chunks chunks' : List (Nat × Bytes)}

/-! ### What is expected of chunks -/

/-- Each of the expected chunks arrived once, and nothing else did. -/
def ArrivedOnce (count : Nat) (chunks : List (Nat × Bytes)) : Prop :=
  (chunks.map Prod.fst).Perm (List.range count)

/-- The chunks are among the expected ones, and no two of them are the same one. -/
def Placed (count : Nat) (chunks : List (Nat × Bytes)) : Prop :=
  (∀ index ∈ chunks.map Prod.fst, index < count) ∧ (chunks.map Prod.fst).Nodup

/-- What is wrong with chunks: the first of them in the order of arrival that is not among the expected
ones or that came before, or, where there is none, the smallest that never came. -/
inductive Misplaced (count : Nat) (chunks : List (Nat × Bytes)) : Nat → ChunkFault → Prop
  | outOfRange {front back : List (Nat × Bytes)} {index : Nat} {data : Bytes}
      (split : chunks = front ++ (index, data) :: back) (placed : Placed count front)
      (beyond : count ≤ index) : Misplaced count chunks index (.outOfRange count)
  | repeated {front back : List (Nat × Bytes)} {index : Nat} {data : Bytes}
      (split : chunks = front ++ (index, data) :: back) (placed : Placed count front)
      (expected : index < count) (again : index ∈ front.map Prod.fst) :
      Misplaced count chunks index .repeated
  | missing {index : Nat} (placed : Placed count chunks) (expected : index < count)
      (absent : index ∉ chunks.map Prod.fst) (smallest : ∀ other < index, other ∈ chunks.map Prod.fst) :
      Misplaced count chunks index .missing

/-- One chunk does not come after another. -/
def NotAfter (first second : Nat × Bytes) : Prop := first.1 ≤ second.1
  deriving Decidable

/-- Of any two chunks one does not come after the other. -/
instance : Std.Total NotAfter := ⟨fun first second => Nat.le_total first.1 second.1⟩

instance : IsTrans (Nat × Bytes) NotAfter := ⟨fun _ _ _ => Nat.le_trans⟩

/-- The chunks in ascending order of their index. -/
def ascending (chunks : List (Nat × Bytes)) : List (Nat × Bytes) :=
  chunks.insertionSort NotAfter

/-- The bytes of the chunks in ascending order of their index, one after the other. -/
def joined (chunks : List (Nat × Bytes)) : Bytes :=
  (ascending chunks).flatMap Prod.snd

/-- Chunks that arrived once each are, in ascending order, those with the indices from zero on. -/
theorem map_fst_ascending (once : ArrivedOnce count chunks) :
    (ascending chunks).map Prod.fst = List.range count := by
  have same : ((ascending chunks).map Prod.fst).Perm (List.range count) :=
    ((List.perm_insertionSort NotAfter chunks).map Prod.fst).trans once
  have sorted : ((ascending chunks).map Prod.fst).SortedLE := by
    refine List.Pairwise.sortedLE ?_
    rw [List.pairwise_map]
    exact List.pairwise_insertionSort NotAfter chunks
  exact same.eq_of_sortedLE sorted List.pairwise_le_range.sortedLE

/-! ### The check -/

/-- A chunk that the check names is the first that is out of range or came before.

**Proof sketch.** Induction on the chunks. A chunk that passes comes in front of the one that is named,
and is among the earlier ones from then on. -/
theorem exists_of_firstMisplaced? {earlier : List Nat} {index : Nat} {fault : ChunkFault}
    (found : firstMisplaced? count earlier chunks = some (index, fault)) :
    ∃ front data back, chunks = front ++ (index, data) :: back ∧ Placed count front ∧
      (∀ other ∈ front.map Prod.fst, other ∉ earlier) ∧
      ((count ≤ index ∧ fault = .outOfRange count) ∨
        (index < count ∧ (index ∈ front.map Prod.fst ∨ index ∈ earlier) ∧ fault = .repeated)) := by
  induction chunks generalizing earlier with
  | nil => cases found
  | cons first rest ih =>
    obtain ⟨number, data⟩ := first
    unfold firstMisplaced? at found
    split at found
    · rename_i beyond
      obtain ⟨rfl, rfl⟩ := Prod.mk.inj (Option.some.inj found)
      exact ⟨[], data, rest, rfl, by simp [Placed], by simp, .inl ⟨beyond, rfl⟩⟩
    rename_i expected
    split at found
    · rename_i again
      obtain ⟨rfl, rfl⟩ := Prod.mk.inj (Option.some.inj found)
      refine ⟨[], data, rest, rfl, by simp [Placed], by simp, .inr ⟨?_, .inr again, rfl⟩⟩
      omega
    rename_i fresh
    obtain ⟨front, data', back, rfl, placed, new, wrong⟩ := ih found
    have apart : number ∉ front.map Prod.fst := fun mem => new number mem List.mem_cons_self
    refine ⟨(number, data) :: front, data', back, rfl, ⟨?_, ?_⟩, ?_, ?_⟩
    · intro other mem
      rcases List.mem_cons.mp mem with rfl | mem
      · omega
      · exact placed.1 other mem
    · exact List.nodup_cons.mpr ⟨apart, placed.2⟩
    · intro other mem
      rcases List.mem_cons.mp mem with rfl | mem
      · exact fresh
      · exact fun before => new other mem (List.mem_cons_of_mem _ before)
    · refine wrong.imp_right ?_
      rintro ⟨below, again, same⟩
      refine ⟨below, ?_, same⟩
      simp only [List.map_cons, List.mem_cons] at again ⊢
      tauto

/-- Chunks of which the check names none are all in their places. -/
theorem placed_of_firstMisplaced? {earlier : List Nat}
    (none_found : firstMisplaced? count earlier chunks = none) : Placed count chunks := by
  induction chunks generalizing earlier with
  | nil => simp [Placed]
  | cons first rest ih =>
    obtain ⟨number, data⟩ := first
    have apart := lookup_of_firstMisplaced? none_found
    unfold firstMisplaced? at none_found
    split at none_found
    · cases none_found
    split at none_found
    · cases none_found
    rename_i expected fresh
    obtain ⟨below, once⟩ := ih none_found
    refine ⟨?_, List.nodup_cons.mpr ⟨fun mem => ?_, once⟩⟩
    · intro other mem
      rcases List.mem_cons.mp mem with rfl | mem
      · omega
      · exact below other mem
    · obtain ⟨chunk, held, rfl⟩ := List.mem_map.mp mem
      exact (lookup_of_firstMisplaced? none_found chunk held).2.1 List.mem_cons_self

/-- The data of the chunk with an index, if it arrived. -/
def dataOf (chunks : List (Nat × Bytes)) (index : Nat) : Except (Nat × ChunkFault) Bytes :=
  match chunks.lookup index with
  | some data => .ok data
  | none => .error (index, .missing)

/-- Chunks of which one is missing are looked up until the first that is.

**Proof sketch.** Induction on the numbers. The first of them is missing, or it is there, and the one
that is missing comes later and is larger. -/
theorem exists_of_mapM_dataOf {numbers : List Nat} {fault : Nat × ChunkFault}
    (failed : numbers.mapM (dataOf chunks) = .error fault) (increasing : numbers.Pairwise (· < ·)) :
    ∃ number ∈ numbers, fault = (number, .missing) ∧ number ∉ chunks.map Prod.fst ∧
      ∀ other ∈ numbers, other < number → other ∈ chunks.map Prod.fst := by
  induction numbers with
  | nil => cases failed
  | cons first rest ih =>
    obtain ⟨above, increasing⟩ := List.pairwise_cons.mp increasing
    rw [List.mapM_cons] at failed
    cases found : chunks.lookup first with
    | none =>
      rw [dataOf, found] at failed
      refine ⟨first, List.mem_cons_self, (Except.error.inj failed).symm, ?_, ?_⟩
      · intro mem
        obtain ⟨chunk, held, rfl⟩ := List.mem_map.mp mem
        simpa using List.lookup_eq_none_iff.mp found chunk held
      · intro other mem less
        rcases List.mem_cons.mp mem with rfl | mem
        · omega
        · have := above other mem
          omega
    | some data =>
      obtain ⟨front, back, rfl, _⟩ := List.lookup_eq_some_iff.mp found
      rw [dataOf, found] at failed
      have failed' : rest.mapM (dataOf (front ++ (first, data) :: back)) = .error fault := by
        revert failed
        cases rest.mapM (dataOf (front ++ (first, data) :: back)) with
        | error fault' => exact id
        | ok others => exact fun failed => by cases failed
      obtain ⟨number, mem, same, absent, smallest⟩ := ih failed' increasing
      refine ⟨number, List.mem_cons_of_mem _ mem, same, absent, fun other mem' less => ?_⟩
      rcases List.mem_cons.mp mem' with rfl | mem'
      · simp
      · exact smallest other mem' less

/-- **The chunk that is named is the one that is wrong.** -/
theorem misplaced_of_assemble {fault : Nat × ChunkFault}
    (failed : assemble count chunks = .error fault) : Misplaced count chunks fault.1 fault.2 := by
  unfold assemble at failed
  split at failed
  · rename_i fault' found
    obtain rfl := Except.error.inj failed
    obtain ⟨front, data, back, split, placed, _, ⟨beyond, same⟩ | ⟨below, again, same⟩⟩ :=
      exists_of_firstMisplaced? found
    · rw [same]
      exact .outOfRange split placed beyond
    · rw [same]
      exact .repeated split placed below (again.resolve_right List.not_mem_nil)
  · rename_i none_found
    obtain ⟨number, mem, rfl, absent, smallest⟩ := exists_of_mapM_dataOf failed List.pairwise_lt_range
    have below := List.mem_range.mp mem
    refine .missing (placed_of_firstMisplaced? none_found) below absent fun other less => ?_
    exact smallest other (List.mem_range.mpr (less.trans below)) less

/-- Chunks can be put in order only if they arrived once each. -/
theorem arrivedOnce_of_assemble {ordered : List Bytes} (assembled : assemble count chunks = .ok ordered) :
    ArrivedOnce count chunks := by
  have complete := (assemble_eq_ok assembled).2.2
  unfold assemble at assembled
  split at assembled
  · cases assembled
  rename_i none_found
  obtain ⟨below, once⟩ := placed_of_firstMisplaced? none_found
  refine (List.perm_ext_iff_of_nodup once List.nodup_range).mpr fun index => ?_
  rw [List.mem_range]
  refine ⟨below index, fun expected => ?_⟩
  obtain ⟨data, mem⟩ := complete index expected
  exact List.mem_map.mpr ⟨_, mem, rfl⟩

/-- **Chunks that arrived once are put in ascending order.**

**Proof sketch.** The list of all chunks in ascending order has at each place the chunk with that
index, and so has the list that is assembled. -/
theorem assemble_of_arrivedOnce (once : ArrivedOnce count chunks) :
    assemble count chunks = .ok ((ascending chunks).map Prod.snd) := by
  obtain ⟨ordered, assembled⟩ := exists_assemble once
  obtain ⟨length_eq, held, _⟩ := assemble_eq_ok assembled
  have indices := map_fst_ascending once
  rw [assembled]
  refine congrArg Except.ok (List.ext_getElem? fun index => ?_)
  rw [List.getElem?_map]
  cases found : (ascending chunks)[index]? with
  | none =>
    have short := congrArg List.length indices
    rw [List.length_map, List.length_range] at short
    have past := List.getElem?_eq_none_iff.mp found
    exact List.getElem?_eq_none_iff.mpr (by omega)
  | some chunk =>
    have mem : chunk ∈ chunks :=
      (List.perm_insertionSort NotAfter chunks).mem_iff.mp (List.mem_of_getElem? found)
    have index_eq : chunk.1 = index := by
      have there := congrArg (·[index]?) indices
      rw [List.getElem?_map, found, Option.map_some] at there
      obtain ⟨_, same⟩ := List.getElem?_eq_some_iff.mp there.symm
      rw [List.getElem_range] at same
      exact same.symm
    rw [Option.map_some, ← index_eq]
    exact held chunk mem

/-- The order of arrival does not matter to chunks that arrived once each. -/
theorem assemble_perm (once : ArrivedOnce count chunks) (same : chunks'.Perm chunks) :
    assemble count chunks' = assemble count chunks := by
  have once' : ArrivedOnce count chunks' := (same.map Prod.fst).trans once
  obtain ⟨ordered, assembled⟩ := exists_assemble once
  obtain ⟨ordered', assembled'⟩ := exists_assemble once'
  obtain ⟨length_eq, held, complete⟩ := assemble_eq_ok assembled
  obtain ⟨length_eq', held', _⟩ := assemble_eq_ok assembled'
  rw [assembled, assembled']
  refine congrArg Except.ok (List.ext_getElem? fun index => ?_)
  by_cases below : index < count
  · obtain ⟨data, mem⟩ := complete index below
    rw [held _ mem, held' _ (same.mem_iff.mpr mem)]
  · rw [List.getElem?_eq_none (by omega), List.getElem?_eq_none (by omega)]

/-! ### Writing to a sink -/

/-- The failure that the fault of a write or a flush means. -/
def sinkFailure? (exchange : Exchange) : Option Failure := exchange.sinkFault?.map .device

/-- Writing a byte string stops with the first write that fails.

**Proof sketch.** Induction on the number of bytes: a write that takes something leaves fewer. -/
theorem stopsAt_writeAll (data : Bytes) : StopsAt sinkFailure? (writeAll data) := by
  induction length : data.length using Nat.strong_induction_on generalizing data with
  | _ size ih =>
    intro trace outcome run
    by_cases nonempty : data = []
    · rw [writeAll, dif_pos nonempty] at run
      exact stopsAt_pure () trace outcome run
    obtain ⟨reply, rest, rfl, ⟨rfl, _, fault, found, rfl⟩ | ⟨taken, rfl, some_taken, later⟩⟩ :=
      run_writeAll_of_ne_nil nonempty run
    · exact ⟨[], _, rfl, by rw [sinkFailure?, found, Option.map_some], by simp⟩
    have clean : sinkFailure? ⟨.write data, .ok taken⟩ = none := by
      have something : ¬ taken.val = 0 := by omega
      simp [sinkFailure?, Exchange.sinkFault?, something]
    have fewer : (data.drop taken.val).length < size := by
      have := List.length_pos_iff.mpr nonempty
      rw [List.length_drop]
      omega
    have after := ih _ fewer (data.drop taken.val) rfl rest outcome later
    cases outcome with
    | ok done => exact List.forall_mem_cons.mpr ⟨clean, after⟩
    | error failure =>
      obtain ⟨front, cause, rfl, means, before⟩ := after
      exact ⟨_ :: front, cause, rfl, means, List.forall_mem_cons.mpr ⟨clean, before⟩⟩

/-- Writing byte strings one after the other stops with the first write that fails. -/
theorem stopsAt_writeEach (pieces : List Bytes) : StopsAt sinkFailure? (writeEach pieces) := by
  induction pieces with
  | nil => exact stopsAt_pure 0
  | cons data rest ih => exact (stopsAt_writeAll data).bind fun _ => ih.bind fun _ => stopsAt_pure _

/-- How the writing of bytes to a sink goes: the sink takes a prefix of them and nothing is asked of it
after a fault, which is the outcome; it is flushed once if it took them all, and else not; and the
outcome is their number exactly if it took them all and could be flushed. -/
structure WritesWhole (whole : Bytes) (trace : Trace) (outcome : Except Failure Nat) : Prop where
  sunk_prefix : trace.sunk <+: whole
  sinks : ∀ exchange ∈ trace, exchange.1.Sinks
  flushes : ∀ front back reply, trace = front ++ ⟨.flush, reply⟩ :: back →
    Trace.sunk front = whole ∧ (∀ exchange ∈ front, exchange.1 ≠ .flush) ∧ back = []
  ok_iff : (∃ written, outcome = .ok written) ↔ trace.sunk = whole ∧ ⟨.flush, .ok ()⟩ ∈ trace
  written_eq : ∀ written, outcome = .ok written → written = whole.length
  stops : ∀ failure, outcome = .error failure → ∃ front cause, trace = front ++ [cause] ∧
    sinkFailure? cause = some failure ∧ ∀ exchange ∈ front, sinkFailure? exchange = none

/-- Writes without a flush are no whole writing, but may be the beginning of one that fails. -/
theorem writesWhole_of_broken {pieces : List Bytes} {trace : Trace} {failure : Failure}
    (run : Run (writeEach pieces) trace (.error failure)) :
    WritesWhole pieces.flatten trace (.error failure) := by
  have only_writes : ∀ exchange ∈ trace, exchange.1 ≠ .flush :=
    run.forall_within (within_writeEach (P := (· ≠ .flush)) (by simp) pieces)
  constructor
  case sunk_prefix => exact ((run_writeEach run).2 failure rfl).1
  case sinks => exact run.forall_within (within_writeEach (fun _ => trivial) pieces)
  case flushes =>
    rintro front back reply rfl
    exact absurd rfl (only_writes ⟨.flush, reply⟩ (by simp))
  case ok_iff =>
    constructor
    · rintro ⟨written, ⟨⟩⟩
    · rintro ⟨_, mem⟩
      exact absurd rfl (only_writes _ mem)
  case written_eq => rintro written ⟨⟩
  case stops =>
    rintro failure' ⟨⟩
    exact stopsAt_writeEach pieces trace _ run

/-- Writes that went well, and the flush after them.

**Proof sketch.** All pieces were taken (`run_writeEach`), and only the last call flushes. So the
outcome is that of the flush, field by field. -/
theorem writesWhole_of_flushed {pieces : List Bytes} {writes : Trace}
    (run : Run (writeEach pieces) writes (.ok pieces.flatten.length)) (reply : Call.flush.Reply) :
    WritesWhole pieces.flatten (writes ++ [⟨.flush, reply⟩])
      ((reply.mapError Failure.device).map fun _ => pieces.flatten.length) := by
  have taken := ((run_writeEach run).1 _ rfl).1
  have only_writes : ∀ exchange ∈ writes, exchange.1 ≠ .flush :=
    run.forall_within (within_writeEach (P := (· ≠ .flush)) (by simp) pieces)
  have sunk_eq : Trace.sunk (writes ++ [⟨.flush, reply⟩]) = pieces.flatten := by
    simp [taken, Exchange.taken]
  constructor
  case sunk_prefix => rw [sunk_eq]
  case sinks =>
    refine List.forall_mem_append.mpr ⟨?_, by simp [Call.Sinks]⟩
    exact run.forall_within (within_writeEach (fun _ => trivial) pieces)
  case flushes =>
    intro front back reply' split
    obtain ⟨rfl, _, rfl⟩ := Trace.eq_of_append_cons_eq (·.1 = .flush) split rfl only_writes (by simp)
    exact ⟨taken, only_writes, rfl⟩
  case ok_iff =>
    rw [sunk_eq]
    cases reply with
    | error fault =>
      constructor
      · rintro ⟨written, ⟨⟩⟩
      · rintro ⟨_, mem⟩
        rcases List.mem_append.mp mem with mem | mem
        · exact absurd rfl (only_writes _ mem)
        · simp at mem
    | ok done => exact ⟨fun _ => ⟨rfl, by simp⟩, fun _ => ⟨_, rfl⟩⟩
  case written_eq =>
    cases reply with
    | error fault => rintro written ⟨⟩
    | ok done =>
      rintro written ⟨⟩
      rfl
  case stops =>
    cases reply with
    | error fault =>
      rintro failure ⟨⟩
      exact ⟨writes, _, rfl, rfl, stopsAt_writeEach pieces writes _ run⟩
    | ok done => rintro failure ⟨⟩

/-! ### Writing chunks -/

/-- How the writing of chunks goes: if they did not arrive once each, the chunk that is wrong is named
and the sink is not called; if they did, their bytes are written in ascending order of the index, and
any other order of arrival makes no difference. -/
structure WritesInOrder (key : String) (count : Nat) (chunks : List (Nat × Bytes)) (trace : Trace)
    (outcome : Except Failure Nat) : Prop where
  misplaced : ¬ ArrivedOnce count chunks → trace = [] ∧
    ∃ index fault, Misplaced count chunks index fault ∧
      outcome = .error (.partialTransfer key index fault)
  whole : ArrivedOnce count chunks → WritesWhole (joined chunks) trace outcome
  anyOrder : ArrivedOnce count chunks → ∀ chunks', chunks'.Perm chunks →
    writeInOrder key chunks' count = writeInOrder key chunks count

/-- **Chunks are written in ascending order of their index, whatever the order of their arrival**, or
nothing is written. -/
theorem writeInOrder_inAnyOrder {trace : Trace} {outcome : Except Failure Nat}
    (run : Run (writeInOrder key chunks count) trace outcome) :
    WritesInOrder key count chunks trace outcome := by
  constructor
  case misplaced =>
    intro wrong
    have assembling := run_ofExcept_bind_iff.mp run
    cases assembled : assemble count chunks with
    | ok ordered => exact absurd (arrivedOnce_of_assemble assembled) wrong
    | error fault =>
      rw [assembled] at assembling
      obtain ⟨rfl, rfl⟩ := assembling
      exact ⟨rfl, fault.1, fault.2, misplaced_of_assemble assembled, rfl⟩
  case whole =>
    intro once
    have joined_eq : joined chunks = ((ascending chunks).map Prod.snd).flatten := List.flatMap_def
    rw [joined_eq]
    obtain ⟨failure, rfl, writing⟩ | ⟨writes, reply, rfl, writing, rfl⟩ :=
      run_writeInOrder_of_assembled run (assemble_of_arrivedOnce once)
    · exact writesWhole_of_broken writing
    · exact writesWhole_of_flushed writing reply
  case anyOrder =>
    intro once chunks' same
    rw [writeInOrder, writeInOrder, assemble_perm once same]

/-- Chunks in another order than their own. -/
def shuffled : List (Nat × Bytes) := [(1, [99, 100]), (0, [97, 98]), (2, [101, 102])]

/-- A world whose sink takes three bytes. -/
def cappedWorld : World MemoryCursor := { World.small [] with sink := { capacity := some 3 } }

/-- The chunks are put in order, and the sink keeps what it took of them before it failed. -/
theorem writeInOrder_inAnyOrder_capped :
    ∃ trace, Run (writeInOrder "k" shuffled 3) trace (.error (.device ⟨.other, "device full"⟩)) ∧
      Trace.sunk trace = [97, 98, 99] ∧ ArrivedOnce 3 shuffled ∧
      WritesInOrder "k" 3 shuffled trace (.error (.device ⟨.other, "device full"⟩)) := by
  let program := (writeInOrder "k" shuffled 3).run
  have run := Dialogue.run_transcript World.answer program cappedWorld
  have outcome_eq : (program.play World.answer cappedWorld).1 =
      .error (.device ⟨.other, "device full"⟩) := by decide +kernel
  have sunk_eq : Trace.sunk (program.transcript World.answer cappedWorld) = [97, 98, 99] := by
    decide +kernel
  have once : ArrivedOnce 3 shuffled := by
    unfold ArrivedOnce
    decide
  rw [outcome_eq] at run
  exact ⟨_, run, sunk_eq, once, writeInOrder_inAnyOrder run⟩

end GraphOffload.Download

import GraphOffload.Proofs.Runs.Calls
import GraphOffload.Proofs.Storage.Promises
import GraphOffload.Proofs.Transfer.Tiling
import GraphOffload.Transfer.Download

/-!
# What a download fetches

The chunks of an object are fetched side by side and arrive in any order. Each arrives at most once
and with the length that was asked for, or nothing is written; so the chunks in their order are a
byte string of which every range that was fetched is the slice it was asked as.

## Main definitions

* `GraphOffload.Trace.ReadsAs` : the ranges fetched in a trace are those of one byte string.

## Main results

* `GraphOffload.Download.run_fetch` : what arrived is what was fetched, chunk by chunk.
* `GraphOffload.Download.assemble_eq_ok` : the chunks in order, if each arrived once.
* `GraphOffload.Download.exists_assemble` : they can be put in order, if each arrived once.
* `GraphOffload.Download.readsAs_of_assemble` : they are the object as it was read.
-/

namespace GraphOffload

open Attempting

/-! ### Ranges -/

/-- The range of a chunk. -/
def Chunk.fetched (path : ObjectPath) (chunk : Chunk) (data : Bytes) : FetchedRange :=
  ⟨path, chunk.start.toNat, chunk.finish.toNat, data⟩

/-- The object under a path was read as the given bytes: the store gave their number, every range that
was fetched is the slice it was asked as, and every byte is in one of the ranges. -/
structure Trace.ReadsAs (trace : Trace) (path : ObjectPath) (bytes : Bytes) : Prop where
  size : ∃ size : UInt64, ⟨.head path, .ok size⟩ ∈ trace ∧ size.toNat = bytes.length
  slices : ∀ range ∈ trace.ranges, range.path = path ∧
    range.data = Bytes.slice bytes (range.start, range.finish - range.start)
  covers : ∀ place < bytes.length, ∃ range ∈ trace.ranges, range.start ≤ place ∧ place < range.finish

namespace Download

variable {key : String} {path : ObjectPath} {total atOnce : Nat} {plan : List Chunk} {trace : Trace}

/-! ### Fetching -/

/-- A chunk of a plan that arrived with as many bytes as it asks for. -/
def Arrived (plan : List Chunk) (arrival : Chunk × Bytes) : Prop :=
  arrival.1 ∈ plan ∧ arrival.2.length = arrival.1.length

/-- A step brings at most one chunk, which was under way.

**Proof sketch.** By what the step does: it waits for a chunk, which comes whole or breaks the fetching
off; it asks for the next one; or it rests. -/
theorem run_step {fetching next : Fetching}
    (run : Run (step key path total atOnce fetching) trace (.ok next))
    (planned : ∀ chunk ∈ fetching.underway ++ fetching.waiting, chunk ∈ plan) :
    (∀ chunk ∈ next.underway ++ next.waiting, chunk ∈ plan) ∧
    ∃ arrivals : List (Chunk × Bytes), (∀ arrival ∈ arrivals, Arrived plan arrival) ∧
      next.arrived.reverse = fetching.arrived.reverse ++ arrivals.map (fun a => (a.1.index, a.2)) ∧
      trace.ranges = arrivals.map fun a => a.1.fetched path a.2 := by
  obtain ⟨index, rest, rfl, run₁⟩ := run_attempt_ok_bind_iff.mp run
  dsimp only at run₁
  split at run₁
  · rename_i chunk found
    obtain ⟨reply, rest, rfl, run₂⟩ := run_attempt_bind_iff.mp run₁
    cases reply with
    | error error => exact nomatch run₂.2
    | ok data =>
      by_cases whole : data.length = chunk.length
      · rw [checkChunk, if_pos whole] at run₂
        obtain ⟨rest, rfl, run₃⟩ := run_notify_bind_iff.mp run₂
        obtain ⟨rfl, same⟩ := run_pure_iff.mp run₃
        obtain rfl := Except.ok.inj same
        have mem : chunk ∈ plan := planned chunk (List.mem_append_left _ (List.mem_of_getElem? found))
        refine ⟨fun other held => planned other ?_, [(chunk, data)], ?_, ?_, rfl⟩
        · exact (List.mem_append.mp held).elim
            (fun h => List.mem_append_left _ (List.mem_of_mem_eraseIdx h)) (List.mem_append_right _)
        · exact fun arrival h => by
            obtain rfl := List.mem_singleton.mp h
            exact ⟨mem, whole⟩
        · simp
      · rw [checkChunk, if_neg whole] at run₂
        exact nomatch run₂.2
  · rename_i chunk none_ready waits
    obtain ⟨_, rest, rfl, run₂⟩ := run_attempt_ok_bind_iff.mp run₁
    obtain ⟨rfl, same⟩ := run_pure_iff.mp run₂
    obtain rfl := Except.ok.inj same
    have first : fetching.waiting.head? = some chunk := by
      split at waits
      · exact waits
      · exact nomatch waits
    obtain ⟨later, waiting⟩ := List.head?_eq_some_iff.mp first
    refine ⟨fun other held => planned other ?_, [], by simp, by simp, rfl⟩
    simpa [waiting, or_assoc] using held
  · obtain ⟨rfl, same⟩ := run_pure_iff.mp run₁
    obtain rfl := Except.ok.inj same
    exact ⟨planned, [], by simp, by simp, rfl⟩

/-- What arrived is what was fetched, chunk by chunk.

**Proof sketch.** Induction on the steps; each one adds what it brings. -/
theorem run_fetch {steps : Nat} {fetching : Fetching} {arrived : List (Nat × Bytes)}
    (run : Run (fetch key path total atOnce steps fetching) trace (.ok arrived))
    (planned : ∀ chunk ∈ fetching.underway ++ fetching.waiting, chunk ∈ plan) :
    ∃ arrivals : List (Chunk × Bytes), (∀ arrival ∈ arrivals, Arrived plan arrival) ∧
      arrived = fetching.arrived.reverse ++ arrivals.map (fun a => (a.1.index, a.2)) ∧
      trace.ranges = arrivals.map fun a => a.1.fetched path a.2 := by
  induction steps generalizing fetching trace with
  | zero =>
    obtain ⟨rfl, same⟩ := run_pure_iff.mp run
    exact ⟨[], by simp, by simpa using Except.ok.inj same, rfl⟩
  | succ steps ih =>
    rcases run_bind_iff.mp run with ⟨failure, same, _⟩ | ⟨next, front, back, rfl, first, later⟩
    · exact nomatch same
    obtain ⟨planned', arrivals, whole, arrived_eq, ranges_eq⟩ := run_step first planned
    obtain ⟨arrivals', whole', rfl, ranges_eq'⟩ := ih later planned'
    refine ⟨arrivals ++ arrivals', List.forall_mem_append.mpr ⟨whole, whole'⟩, ?_, ?_⟩
    · rw [arrived_eq, List.map_append, List.append_assoc]
    · rw [Trace.ranges_append, ranges_eq, ranges_eq', List.map_append]

/-- What arrived of a plan is what was fetched, chunk by chunk. -/
theorem run_fetchAll {arrived : List (Nat × Bytes)}
    (run : Run (fetchAll key path total atOnce plan) trace (.ok arrived)) :
    ∃ arrivals : List (Chunk × Bytes), (∀ arrival ∈ arrivals, Arrived plan arrival) ∧
      arrived = arrivals.map (fun a => (a.1.index, a.2)) ∧
      trace.ranges = arrivals.map fun a => a.1.fetched path a.2 := by
  have planned : ∀ chunk ∈ ({ waiting := plan } : Fetching).underway ++ plan, chunk ∈ plan := by simp
  simpa using run_fetch run planned

/-! ### Chunks in order -/

/-- If no chunk is misplaced, each is an expected one and the only one of its number. -/
theorem lookup_of_firstMisplaced? {count : Nat} {earlier : List Nat} {chunks : List (Nat × Bytes)}
    (h : firstMisplaced? count earlier chunks = none) :
    ∀ chunk ∈ chunks, chunk.1 < count ∧ chunk.1 ∉ earlier ∧ chunks.lookup chunk.1 = some chunk.2 := by
  induction chunks generalizing earlier with
  | nil => simp
  | cons first rest ih =>
    obtain ⟨number, data⟩ := first
    unfold firstMisplaced? at h
    split at h
    · exact nomatch h
    rename_i expected
    split at h
    · exact nomatch h
    rename_i fresh
    intro chunk mem
    rcases List.mem_cons.mp mem with rfl | mem
    · exact ⟨by omega, fresh, by simp⟩
    · obtain ⟨below, new, found⟩ := ih h chunk mem
      simp only [List.mem_cons, not_or] at new
      refine ⟨below, new.2, ?_⟩
      rw [List.lookup_cons, beq_eq_false_iff_ne.mpr new.1]
      exact found

/-- Looking up chunks one after the other.

**Proof sketch.** Induction on the numbers: the first of them is found, as the looking up would have
stopped there else. -/
theorem map_some_of_mapM {chunks : List (Nat × Bytes)} {numbers : List Nat} {ordered : List Bytes}
    (h : (numbers.mapM fun number => match chunks.lookup number with
      | some data => .ok data
      | none => .error (number, .missing)) = (.ok ordered : Except (Nat × ChunkFault) (List Bytes))) :
    ordered.map some = numbers.map (List.lookup · chunks) := by
  induction numbers generalizing ordered with
  | nil =>
    obtain rfl := Except.ok.inj h
    rfl
  | cons number numbers ih =>
    rw [List.mapM_cons] at h
    cases found : chunks.lookup number with
    | none =>
      rw [found] at h
      exact nomatch h
    | some data =>
      rw [found] at h
      obtain ⟨others, rest, same⟩ : ∃ others, (numbers.mapM fun number => match chunks.lookup number with
          | some data => .ok data
          | none => .error (number, .missing)) = (.ok others : Except (Nat × ChunkFault) (List Bytes)) ∧
            data :: others = ordered := by
        revert h
        cases numbers.mapM fun number => match chunks.lookup number with
          | some data => (.ok data : Except (Nat × ChunkFault) Bytes)
          | none => .error (number, .missing) with
        | error fault => exact fun h => nomatch h
        | ok others => exact fun h => ⟨others, rfl, Except.ok.inj h⟩
      rw [← same, List.map_cons, List.map_cons, found, ih rest]

/-- **The chunks are in order, if each arrived once.** -/
theorem assemble_eq_ok {count : Nat} {chunks : List (Nat × Bytes)} {ordered : List Bytes}
    (h : assemble count chunks = .ok ordered) :
    ordered.length = count ∧ (∀ chunk ∈ chunks, ordered[chunk.1]? = some chunk.2) ∧
      ∀ number < count, ∃ data, (number, data) ∈ chunks := by
  unfold assemble at h
  split at h
  · exact nomatch h
  rename_i placed
  have found := map_some_of_mapM h
  have length_eq : ordered.length = count := by simpa using congrArg List.length found
  have lookup_eq {number : Nat} (below : number < count) :
      ordered[number]?.map some = some (chunks.lookup number) := by
    rw [← List.getElem?_map, found, List.getElem?_map, List.getElem?_range below, Option.map_some]
  refine ⟨length_eq, fun chunk mem => ?_, fun number below => ?_⟩
  · obtain ⟨below, _, held⟩ := lookup_of_firstMisplaced? placed chunk mem
    have same := lookup_eq below
    rw [held] at same
    simpa using same
  · have same := lookup_eq below
    rw [List.getElem?_eq_getElem (by omega), Option.map_some] at same
    obtain ⟨front, back, rfl, _⟩ := List.lookup_eq_some_iff.mp (Option.some.inj same).symm
    exact ⟨_, List.mem_append_right _ List.mem_cons_self⟩

/-- No chunk is misplaced if each is an expected one and the only one of its number. -/
theorem firstMisplaced?_eq_none {count : Nat} {earlier : List Nat} {chunks : List (Nat × Bytes)}
    (expected : ∀ number ∈ chunks.map Prod.fst, number < count)
    (fresh : ∀ number ∈ chunks.map Prod.fst, number ∉ earlier) (once : (chunks.map Prod.fst).Nodup) :
    firstMisplaced? count earlier chunks = none := by
  induction chunks generalizing earlier with
  | nil => rfl
  | cons first rest ih =>
    simp only [List.map_cons, List.forall_mem_cons, List.nodup_cons] at expected fresh once
    rw [firstMisplaced?, if_neg (Nat.not_le_of_lt expected.1), if_neg fresh.1]
    refine ih expected.2 (fun number mem => ?_) once.2
    refine List.not_mem_cons_of_ne_of_not_mem ?_ (fresh.2 number mem)
    rintro rfl
    exact once.1 mem

/-- Chunks that all arrived can be looked up one after the other. -/
theorem exists_mapM_lookup {chunks : List (Nat × Bytes)} {numbers : List Nat}
    (here : ∀ number ∈ numbers, number ∈ chunks.map Prod.fst) :
    ∃ ordered, (numbers.mapM fun number => match chunks.lookup number with
      | some data => .ok data
      | none => .error (number, .missing)) = (.ok ordered : Except (Nat × ChunkFault) (List Bytes)) := by
  induction numbers with
  | nil => exact ⟨[], rfl⟩
  | cons number numbers ih =>
    simp only [List.forall_mem_cons] at here
    obtain ⟨others, found_others⟩ := ih here.2
    obtain ⟨data, found⟩ : ∃ data, chunks.lookup number = some data := by
      rw [← Option.isSome_iff_exists, List.lookup_isSome_iff]
      obtain ⟨chunk, mem, rfl⟩ := List.mem_map.mp here.1
      exact ⟨chunk, mem, beq_self_eq_true _⟩
    refine ⟨data :: others, ?_⟩
    rw [List.mapM_cons, found_others, found]
    rfl

/-- **Chunks that arrived once each can be put in order**, whatever the order of their arrival. -/
theorem exists_assemble {count : Nat} {chunks : List (Nat × Bytes)}
    (once : (chunks.map Prod.fst).Perm (List.range count)) :
    ∃ ordered, assemble count chunks = .ok ordered := by
  have placed : firstMisplaced? count [] chunks = none :=
    firstMisplaced?_eq_none (fun number mem => List.mem_range.mp (once.mem_iff.mp mem))
      (fun number _ => List.not_mem_nil) (once.nodup_iff.mpr List.nodup_range)
  obtain ⟨ordered, found⟩ := exists_mapM_lookup fun number mem => once.mem_iff.mpr mem
  refine ⟨ordered, ?_⟩
  rw [assemble, placed]
  exact found

/-! ### The object as it was read -/

variable {size chunkSize : UInt64} {arrivals : List (Chunk × Bytes)} {ordered : List Bytes}

/-- A chunk of a plan is the only one of its number. -/
theorem eq_of_index_eq {chunk other : Chunk} (mem : chunk ∈ Chunk.plan size chunkSize)
    (mem' : other ∈ Chunk.plan size chunkSize) (same : chunk.index = other.index) : chunk = other := by
  obtain ⟨index, found⟩ := List.getElem?_of_mem mem
  obtain ⟨index', found'⟩ := List.getElem?_of_mem mem'
  rw [Chunk.index_of_getElem?_plan found, Chunk.index_of_getElem?_plan found'] at same
  rw [same, found'] at found
  exact (Option.some.inj found).symm

/-- Every chunk of a plan arrived, if the chunks could be put in order. -/
theorem exists_arrival (arrived : ∀ arrival ∈ arrivals, Arrived (Chunk.plan size chunkSize) arrival)
    (assembled : assemble (Chunk.plan size chunkSize).length (arrivals.map fun a => (a.1.index, a.2)) =
      .ok ordered) {index : Nat} {chunk : Chunk}
    (found : (Chunk.plan size chunkSize)[index]? = some chunk) :
    ∃ data, (chunk, data) ∈ arrivals ∧ ordered[index]? = some data := by
  obtain ⟨below, _⟩ := List.getElem?_eq_some_iff.mp found
  obtain ⟨_, held, complete⟩ := assemble_eq_ok assembled
  obtain ⟨data, mem⟩ := complete index below
  obtain ⟨⟨other, data'⟩, came, same⟩ := List.mem_map.mp mem
  obtain ⟨rfl, rfl⟩ := Prod.mk.inj same
  have number_eq := Chunk.index_of_getElem?_plan found
  obtain rfl := eq_of_index_eq (List.mem_of_getElem? found) (arrived _ came).1 number_eq
  exact ⟨data', came, held _ mem⟩

/-- **The chunks in order are the object as it was read.**

**Proof sketch.** Every chunk of the plan arrived, so none has its ends the wrong way round, and the
plan is a tiling of as many bytes as the object has. The chunks have the lengths of its extents, so
that each is the slice of all of them together. -/
theorem readsAs_of_assemble (arrived : ∀ arrival ∈ arrivals, Arrived (Chunk.plan size chunkSize) arrival)
    (ranges_eq : trace.ranges = arrivals.map fun a => a.1.fetched path a.2)
    (assembled : assemble (Chunk.plan size chunkSize).length (arrivals.map fun a => (a.1.index, a.2)) =
      .ok ordered) (sized : ⟨.head path, .ok size⟩ ∈ trace) (refuses : trace.RefusesEmptyRanges) :
    trace.ReadsAs path ordered.flatten := by
  have fetched {chunk : Chunk} {data : Bytes} (mem : (chunk, data) ∈ arrivals) :
      chunk.fetched path data ∈ trace.ranges := by
    rw [ranges_eq]
    exact List.mem_map.mpr ⟨_, mem, rfl⟩
  have forward : ∀ chunk ∈ Chunk.plan size chunkSize, chunk.start < chunk.finish := by
    intro chunk mem
    obtain ⟨index, found⟩ := List.getElem?_of_mem mem
    obtain ⟨data, came, _⟩ := exists_arrival arrived assembled found
    exact UInt64.lt_iff_toNat_lt.mpr (refuses _ (fetched came))
  have tiles := Chunk.tiles_plan forward
  have length_eq := (assemble_eq_ok assembled).1
  -- chunk by chunk the bytes have the lengths of the extents that tile the object
  have lengths : ordered.map List.length =
      ((Chunk.plan size chunkSize).map Chunk.extent).map Prod.snd := by
    refine List.ext_getElem? fun index => ?_
    cases found : (Chunk.plan size chunkSize)[index]? with
    | none =>
      have past : ordered.length ≤ index := length_eq ▸ List.getElem?_eq_none_iff.mp found
      simp [found, List.getElem?_eq_none past]
    | some chunk =>
      obtain ⟨data, came, held⟩ := exists_arrival arrived assembled found
      simp [found, held, (arrived _ came).2, Chunk.extent]
  have slices := tiles.slice_flatten lengths
  refine ⟨⟨size, sized, ?_⟩, fun range mem => ?_, fun place below => ?_⟩
  · rw [← tiles.length_flatten lengths, Nat.zero_add]
  · rw [ranges_eq] at mem
    obtain ⟨⟨chunk, data⟩, came, rfl⟩ := List.mem_map.mp mem
    obtain ⟨index, found⟩ := List.getElem?_of_mem (arrived _ came).1
    have held := (assemble_eq_ok assembled).2.1 _ (List.mem_map.mpr ⟨_, came, rfl⟩)
    rw [Chunk.index_of_getElem?_plan found, ← slices, List.getElem?_map, List.getElem?_map,
      found] at held
    exact ⟨rfl, (Option.some.inj held).symm⟩
  · have ends := tiles.length_flatten lengths
    obtain ⟨extent, mem, lower, upper⟩ := tiles.covers (Nat.zero_le place) (by omega)
    obtain ⟨chunk, planned, rfl⟩ := List.mem_map.mp mem
    obtain ⟨index, found⟩ := List.getElem?_of_mem planned
    obtain ⟨data, came, _⟩ := exists_arrival arrived assembled found
    refine ⟨_, fetched came, lower, ?_⟩
    simp only [Chunk.extent, Chunk.length] at lower upper
    simp only [Chunk.fetched]
    omega

end Download

/-- What was read is the object, if the store's answers were about one object. -/
theorem Trace.ReadsAs.eq_of_slices {trace : Trace} {path : ObjectPath} {bytes object : Bytes}
    (reads : trace.ReadsAs path bytes) (length_eq : object.length = bytes.length)
    (slices : ∀ range ∈ trace.ranges,
      range.data = Bytes.slice object (range.start, range.finish - range.start)) :
    bytes = object := by
  refine List.ext_getElem length_eq.symm fun place below below' => ?_
  obtain ⟨range, mem, lower, upper⟩ := reads.covers place below
  have same := (reads.slices range mem).2.symm.trans (slices range mem)
  have there := congrArg (·[place - range.start]?) same
  have inside : place - range.start < range.finish - range.start := by omega
  have back : range.start + (place - range.start) = place := by omega
  simp only [Bytes.slice, List.getElem?_take_of_lt inside, List.getElem?_drop, back] at there
  rw [List.getElem?_eq_getElem below, List.getElem?_eq_getElem below'] at there
  exact Option.some.inj there

end GraphOffload

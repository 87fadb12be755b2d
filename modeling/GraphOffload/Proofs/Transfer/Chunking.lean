import GraphOffload.Proofs.Transfer.Planning

/-!
# Plans of downloads

The end of a chunk is computed before it is cut down to the end of the object, so the last chunk of a
plan may point beyond the object, and beyond 64 bits. Only objects that are too large to be held come
so far. For all others the plan is the one over the natural numbers, whatever the chunk size.

## Main definitions

* `GraphOffload.Chunk.plan?` : a plan in which each step is checked to fit 64 bits.

## Main results

* `GraphOffload.Chunk.plan?_eq_some_iff` : when no step of a plan leaves 64 bits.
* `GraphOffload.Chunk.plan_cutsEvenly` : the plan of a download cuts an object evenly.
-/

namespace GraphOffload

/-! ### Checked plans -/

/-- The chunks of an object, if each step of the plan fits 64 bits. -/
def Chunk.plan? (size chunkSize : UInt64) : Option (List Chunk) := do
  let step := max chunkSize 1
  let count ← Word64.ceilDiv? size step
  (List.range count.toNat).mapM fun index => do
    let start ← Word64.mul? (.ofNat index) step
    let finish ← Word64.add? start step
    return ⟨index, start, min finish size⟩

/-- Where a list has a value, every item has one. -/
theorem exists_of_mapM_eq_some {α β : Type} {f : α → Option β} {list : List α} {values : List β}
    (whole : list.mapM f = some values) : ∀ item ∈ list, ∃ value, f item = some value := by
  induction list generalizing values with
  | nil => simp
  | cons item rest ih =>
    simp only [List.mapM_cons, Option.bind_eq_bind, Option.bind_eq_some_iff] at whole
    obtain ⟨value, first, others, rest_eq, _⟩ := whole
    exact List.forall_mem_cons.mpr ⟨⟨value, first⟩, ih rest_eq⟩

/-- **No step of a plan leaves 64 bits** exactly if the chunks would not, were they all full.

**Proof sketch.** The last chunk points farthest, to where all of them would end. -/
theorem Chunk.plan?_eq_some_iff (size chunkSize : UInt64) :
    plan? size chunkSize = some (plan size chunkSize) ↔
      cutCount size.toNat (max chunkSize.toNat 1) * max chunkSize.toNat 1 < UInt64.size := by
  have step_eq : (max chunkSize 1).toNat = max chunkSize.toNat 1 := Word64.toNat_max _ _
  have positive : 0 < (max chunkSize 1).toNat := by omega
  have count_eq := Word64.toNat_ceilDiv size (max chunkSize 1) positive
  rw [← step_eq]
  have start_lt := (cutCount_spec size.toNat positive).2
  have start_eq : ∀ index < cutCount size.toNat (max chunkSize 1).toNat,
      Word64.mul? (.ofNat index) (max chunkSize 1) = some (.ofNat index * max chunkSize 1) ∧
        (UInt64.ofNat index * max chunkSize 1).toNat = index * (max chunkSize 1).toNat :=
    fun index counted => ⟨Word64.mul?_ofNat positive (start_lt index counted),
      Word64.toNat_ofNat_mul positive (start_lt index counted) (Nat.le_of_lt size.toNat_lt)⟩
  simp only [plan?, plan, Word64.ceilDiv?_eq size positive, Option.bind_eq_bind, Option.bind_some,
    count_eq]
  constructor
  · intro whole
    rcases Nat.eq_zero_or_pos (cutCount size.toNat (max chunkSize 1).toNat) with none | some
    · rw [none, Nat.zero_mul]
      decide
    · -- the last chunk has an end, if the plan has no chunk without
      obtain ⟨last, last_eq⟩ := Nat.exists_eq_succ_of_ne_zero (Nat.ne_of_gt some)
      have counted : last < cutCount size.toNat (max chunkSize 1).toNat := by omega
      obtain ⟨chunk, found⟩ := exists_of_mapM_eq_some whole last (List.mem_range.mpr counted)
      obtain ⟨product, exact_start⟩ := start_eq last counted
      rw [product, Option.bind_some, Word64.add?, exact_start] at found
      rw [last_eq, Nat.succ_mul]
      by_contra beyond
      rw [if_neg beyond] at found
      cases found
  · intro within
    refine mapM_eq_some_map fun index mem => ?_
    have counted := List.mem_range.mp mem
    obtain ⟨product, exact_start⟩ := start_eq index counted
    have end_le := Nat.mul_le_mul_right (max chunkSize 1).toNat (Nat.succ_le_of_lt counted)
    rw [Nat.succ_mul] at end_le
    have sum : Word64.add? (.ofNat index * max chunkSize 1) (max chunkSize 1) =
        some (.ofNat index * max chunkSize 1 + max chunkSize 1) := by
      refine if_pos ?_
      rw [exact_start]
      exact Nat.lt_of_le_of_lt end_le within
    rw [product, Option.bind_some, sum]
    rfl

/-- The second chunk of an object of more than `2 ^ 63` bytes may point beyond 64 bits. -/
example : Chunk.plan? 9223372036854775810 9223372036854775809 = none := by decide

/-- Full chunks of an object that can be held end within 64 bits: only one that is alone can be longer
than the object. -/
theorem cutCount_mul_lt_of_fits {total size : Nat} (fits : total < 2 ^ 63) (bound : size < UInt64.size)
    (positive : 0 < size) : cutCount total size * size < UInt64.size := by
  have size_eq : UInt64.size = 18446744073709551616 := rfl
  rcases Nat.lt_or_ge 1 (cutCount total size) with several | single
  · obtain ⟨between, count_eq⟩ := Nat.exists_eq_add_of_lt several
    have last_start := (cutCount_spec total positive).2 (1 + between) (by omega)
    have size_le := Nat.le_mul_of_pos_left size (show 0 < 1 + between by omega)
    rw [count_eq, Nat.succ_mul]
    omega
  · calc cutCount total size * size ≤ 1 * size := Nat.mul_le_mul_right size single
      _ = size := Nat.one_mul size
      _ < UInt64.size := bound

/-! ### Plans of what can be held -/

/-- **The plan of a download cuts an object evenly**: an object that can be held is cut into as many
chunks as it takes, none of them empty and all of the chunk size but the last, numbered in their order
and without gap, and no step of the computation leaves 64 bits. Chunks of no bytes count as chunks of
one byte.

**Proof sketch.** The chunks are in order, so their extents are the cut over the natural numbers. -/
theorem Chunk.plan_cutsEvenly {size : UInt64} (fits : size.toNat < 2 ^ 63) (chunkSize : UInt64) :
    CutsEvenly size.toNat (max chunkSize.toNat 1) ((Chunk.plan size chunkSize).map Chunk.extent) ∧
      (∀ chunk ∈ Chunk.plan size chunkSize, chunk.start < chunk.finish) ∧
      (Chunk.plan size chunkSize).map Chunk.index = List.range (Chunk.plan size chunkSize).length ∧
      Chunk.plan? size chunkSize = some (Chunk.plan size chunkSize) := by
  have ordered : ∀ chunk ∈ Chunk.plan size chunkSize, chunk.start < chunk.finish :=
    Chunk.start_lt_finish_of_fits fits
  have positive : 0 < max chunkSize.toNat 1 := by omega
  have bound : max chunkSize.toNat 1 < UInt64.size := max_lt chunkSize.toNat_lt (by decide)
  refine ⟨?_, ordered, Chunk.map_index_plan size chunkSize, ?_⟩
  · rw [Chunk.extents_plan ordered]
    exact cutsEvenly_cut size.toNat positive
  · exact (Chunk.plan?_eq_some_iff size chunkSize).mpr (cutCount_mul_lt_of_fits fits bound positive)

/-- The largest object that can be held, in chunks that are one byte shorter: the second chunk ends, before
it is cut down, just below the largest word. -/
theorem Chunk.plan_cutsEvenly_last_byte :
    (9223372036854775807 : UInt64).toNat < 2 ^ 63 ∧
      Chunk.plan 9223372036854775807 9223372036854775806 =
        [⟨0, 0, 9223372036854775806⟩, ⟨1, 9223372036854775806, 9223372036854775807⟩] ∧
      CutsEvenly 9223372036854775807 9223372036854775806
        [(0, 9223372036854775806), (9223372036854775806, 1)] ∧
      Chunk.plan? 9223372036854775807 9223372036854775806 =
        some [⟨0, 0, 9223372036854775806⟩, ⟨1, 9223372036854775806, 9223372036854775807⟩] := by
  have fits : (9223372036854775807 : UInt64).toNat < 2 ^ 63 := by decide
  obtain ⟨even, _, _, checked⟩ := Chunk.plan_cutsEvenly fits 9223372036854775806
  have plan_eq : Chunk.plan 9223372036854775807 9223372036854775806 =
      [⟨0, 0, 9223372036854775806⟩, ⟨1, 9223372036854775806, 9223372036854775807⟩] := by decide
  rw [plan_eq] at even checked
  exact ⟨fits, plan_eq, even, checked⟩

end GraphOffload

import GraphOffload.Transfer.Plan
import GraphOffload.Bytes
import Mathlib.Algebra.Group.Nat.Defs
import Mathlib.Data.List.Basic
import Mathlib.Data.Nat.Basic

/-!
# Plans without gaps

A plan cuts a whole into extents, each given by where it starts and how long it is. The plans of
uploads and downloads are one cut: all extents are of one size but the last, which is what is left.
They are computed in 64-bit words; no intermediate result of the plan for an upload leaves them, and
the plan for a download does so only where a chunk comes out with its ends the wrong way round.

## Main definitions

* `GraphOffload.Tiles` : extents that follow one another without gap.
* `GraphOffload.cut` : a whole cut into extents of one size.

## Main results

* `GraphOffload.tiles_cut` : the extents of a cut follow one another from the start to the end.
* `GraphOffload.Tiles.flatMap_slice` : the slices of a byte string along such extents are the byte
  string.
* `GraphOffload.Tiles.slice_flatten` : byte strings of the lengths of such extents are the slices of
  what they are together.
* `GraphOffload.Part.extents_plan`, `GraphOffload.Chunk.extents_plan` : the plans of uploads and
  downloads are cuts.
* `GraphOffload.Part.dvd_offset_plan_iff` : when all parts start at records.
-/

namespace GraphOffload

/-! ### Extents -/

/-- A piece of a whole: where it starts and how long it is. -/
abbrev Extent := Nat × Nat

/-- The bytes of an extent. -/
def Bytes.slice (bytes : Bytes) (extent : Extent) : Bytes := (bytes.drop extent.1).take extent.2

/-- The extents are not empty and follow one another without gap, from `start` up to `finish`. -/
def Tiles (start finish : Nat) : List Extent → Prop
  | [] => start = finish
  | extent :: rest => extent.1 = start ∧ 0 < extent.2 ∧ Tiles (start + extent.2) finish rest

namespace Tiles

variable {start finish : Nat} {extents : List Extent}

/-- A tiling does not end before it starts. -/
theorem start_le_finish (tiles : Tiles start finish extents) : start ≤ finish := by
  induction extents generalizing start with
  | nil => exact Nat.le_of_eq tiles
  | cons extent rest ih => exact Nat.le_trans (Nat.le_add_right _ _) (ih tiles.2.2)

/-- A tiling ends where byte strings of its lengths do, one after the other. -/
theorem length_flatten (tiles : Tiles start finish extents) {pieces : List Bytes}
    (lengths : pieces.map List.length = extents.map Prod.snd) :
    start + pieces.flatten.length = finish := by
  induction extents generalizing start pieces with
  | nil =>
    obtain rfl : pieces = [] := by simpa using lengths
    exact tiles
  | cons extent rest ih =>
    cases pieces with
    | nil => simp at lengths
    | cons piece pieces =>
      simp only [List.map_cons, List.cons.injEq] at lengths
      have := ih tiles.2.2 lengths.2
      rw [List.flatten_cons, List.length_append, lengths.1]
      omega

/-- Every extent of a tiling lies between its ends. -/
theorem bounds (tiles : Tiles start finish extents) :
    ∀ extent ∈ extents, start ≤ extent.1 ∧ extent.1 + extent.2 ≤ finish := by
  induction extents generalizing start with
  | nil => simp
  | cons first rest ih =>
    obtain ⟨starts, _, tiles⟩ := tiles
    have ends := tiles.start_le_finish
    intro extent mem
    rcases List.mem_cons.mp mem with rfl | mem
    · omega
    · have := ih tiles extent mem
      omega

/-- Every place between the ends of a tiling lies in one of its extents. -/
theorem covers (tiles : Tiles start finish extents) {place : Nat} (lower : start ≤ place)
    (upper : place < finish) : ∃ extent ∈ extents, extent.1 ≤ place ∧ place < extent.1 + extent.2 := by
  induction extents generalizing start with
  | nil =>
    have : start = finish := tiles
    omega
  | cons first rest ih =>
    obtain ⟨starts, _, tiles⟩ := tiles
    by_cases inside : place < start + first.2
    · exact ⟨first, List.mem_cons_self, by omega, by omega⟩
    · obtain ⟨extent, mem, within⟩ := ih tiles (by omega)
      exact ⟨extent, List.mem_cons_of_mem _ mem, within⟩

/-- Every place between the ends of a tiling lies in one of its extents only, and no other place lies in
any. -/
theorem countP_eq (tiles : Tiles start finish extents) (place : Nat) :
    extents.countP (fun extent => extent.1 ≤ place ∧ place < extent.1 + extent.2) =
      if start ≤ place ∧ place < finish then 1 else 0 := by
  induction extents generalizing start with
  | nil =>
    have : start = finish := tiles
    rw [List.countP_nil, if_neg (by omega)]
  | cons first rest ih =>
    obtain ⟨starts, _, tiles⟩ := tiles
    have ends := tiles.start_le_finish
    rw [List.countP_cons, ih tiles]
    simp only [decide_eq_true_eq]
    split_ifs <;> omega

/-- The slices of a byte string along a tiling are the slice from its start to its end.

**Proof sketch.** Induction on the extents: what the first one takes and what the others take from
where it ends are together what is taken from its start. -/
theorem flatMap_slice (tiles : Tiles start finish extents) (bytes : Bytes) :
    extents.flatMap bytes.slice = bytes.slice (start, finish - start) := by
  induction extents generalizing start with
  | nil =>
    have : start = finish := tiles
    simp [Bytes.slice, this]
  | cons extent rest ih =>
    obtain ⟨starts, _, tiles⟩ := tiles
    have ends := tiles.start_le_finish
    rw [List.flatMap_cons, ih tiles]
    have split : finish - start = extent.2 + (finish - (start + extent.2)) := by omega
    simp only [Bytes.slice, starts, split, List.take_add, List.drop_drop]

/-- Byte strings of the lengths of a tiling are the slices of what they are together, after anything
as long as what lies before the tiling. -/
theorem slice_append_flatten (tiles : Tiles start finish extents) {pieces : List Bytes}
    (lengths : pieces.map List.length = extents.map Prod.snd) (before : Bytes)
    (starts : before.length = start) :
    extents.map (Bytes.slice (before ++ pieces.flatten)) = pieces := by
  induction extents generalizing start pieces before with
  | nil => simpa [eq_comm] using lengths
  | cons extent rest ih =>
    obtain ⟨first, _, tiles⟩ := tiles
    cases pieces with
    | nil => simp at lengths
    | cons piece pieces =>
      simp only [List.map_cons, List.cons.injEq] at lengths
      have rest_eq := ih tiles lengths.2 (before ++ piece) (by simp [starts, lengths.1])
      simp only [List.map_cons, List.flatten_cons, List.cons.injEq]
      refine ⟨?_, by simpa using rest_eq⟩
      simp [Bytes.slice, first, ← starts, ← lengths.1]

/-- Byte strings of the lengths of a tiling are the slices of what they are together. -/
theorem slice_flatten (tiles : Tiles 0 finish extents) {pieces : List Bytes}
    (lengths : pieces.map List.length = extents.map Prod.snd) :
    extents.map (Bytes.slice pieces.flatten) = pieces :=
  tiles.slice_append_flatten lengths [] rfl

end Tiles

/-! ### Cuts -/

/-- A whole of `total` bytes cut into `count` extents of `size` bytes, as far as it goes. -/
def cut (total size count : Nat) : List Extent :=
  (List.range count).map fun index => (index * size, min size (total - index * size))

/-- How many extents of `size` bytes a whole of `total` bytes needs. -/
def cutCount (total size : Nat) : Nat :=
  if total % size = 0 then total / size else total / size + 1

/-- All extents but the last are full, and the last one is not empty. -/
theorem cutCount_spec (total : Nat) {size : Nat} (positive : 0 < size) :
    total ≤ cutCount total size * size ∧ ∀ index < cutCount total size, index * size < total := by
  have division := Nat.div_add_mod total size
  have small := Nat.mod_lt total positive
  have commuted : total / size * size = size * (total / size) := Nat.mul_comm _ _
  unfold cutCount
  split
  · rename_i divides
    refine ⟨by omega, fun index below => ?_⟩
    have := Nat.mul_le_mul_right size (Nat.succ_le_of_lt below)
    rw [Nat.succ_mul] at this
    omega
  · rename_i uneven
    refine ⟨by rw [Nat.succ_mul]; omega, fun index below => ?_⟩
    have := Nat.mul_le_mul_right size (Nat.le_of_lt_succ below)
    omega

/-- The extents of a cut from some index on follow one another up to the end. -/
theorem tiles_cut_from (total : Nat) {size : Nat} (positive : 0 < size) (first count : Nat)
    (whole : first + count = cutCount total size) :
    Tiles (min (first * size) total) total
      ((List.range' first count).map fun index => (index * size, min size (total - index * size))) := by
  obtain ⟨enough, nonempty⟩ := cutCount_spec total positive
  induction count generalizing first with
  | zero =>
    obtain rfl : first = cutCount total size := by omega
    exact Nat.min_eq_right enough
  | succ count ih =>
    have below := nonempty first (by omega)
    have next := ih (first + 1) (by omega)
    simp only [List.range'_succ, List.map_cons, Tiles]
    refine ⟨by omega, by omega, ?_⟩
    rw [Nat.succ_mul] at next
    convert next using 1
    omega

/-- **The extents of a cut follow one another from the start to the end.** -/
theorem tiles_cut {total size : Nat} (positive : 0 < size) :
    Tiles 0 total (cut total size (cutCount total size)) := by
  have tiles := tiles_cut_from total positive 0 (cutCount total size) (by omega)
  rw [Nat.zero_mul, Nat.zero_min] at tiles
  rwa [cut, List.range_eq_range']

/-! ### Words -/

namespace Word64

/-- The larger of two words is the larger number. -/
@[simp] theorem toNat_max (a b : UInt64) : (max a b).toNat = max a.toNat b.toNat := by
  rw [show max a b = if a ≤ b then b else a from rfl]
  split <;> rename_i h <;> rw [UInt64.le_iff_toNat_le] at h <;> omega

/-- The smaller of two words is the smaller number. -/
@[simp] theorem toNat_min (a b : UInt64) : (min a b).toNat = min a.toNat b.toNat := by
  rw [show min a b = if a ≤ b then a else b from rfl]
  split <;> rename_i h <;> rw [UInt64.le_iff_toNat_le] at h <;> omega

/-- Division that rounds up does not overflow. -/
theorem toNat_ceilDiv (length unit : UInt64) (positive : 0 < unit.toNat) :
    (ceilDiv length unit).toNat = cutCount length.toNat unit.toNat := by
  have below := length.toNat_lt
  have zero_iff : length % unit = 0 ↔ length.toNat % unit.toNat = 0 := by
    rw [← UInt64.toNat_inj, UInt64.toNat_mod, UInt64.toNat_zero]
  have small : length.toNat / unit.toNat ≤ length.toNat := Nat.div_le_self _ _
  unfold ceilDiv cutCount
  by_cases divides : length.toNat % unit.toNat = 0
  · rw [if_pos (zero_iff.mpr divides), if_pos divides, UInt64.toNat_div]
  · rw [if_neg (zero_iff.not.mpr divides), if_neg divides, UInt64.toNat_add, UInt64.toNat_div,
      UInt64.toNat_one]
    apply Nat.mod_eq_of_lt
    have uneven : 1 < unit.toNat := by
      by_contra h
      obtain one : unit.toNat = 1 := by omega
      simp [one, Nat.mod_one] at divides
    have := Nat.div_lt_self (n := length.toNat) (k := unit.toNat) (by
      by_contra h
      obtain zero : length.toNat = 0 := by omega
      simp [zero] at divides) uneven
    omega

/-- A multiple of a word that lies below another word does not overflow. -/
theorem toNat_ofNat_mul {index : Nat} {unit : UInt64} {limit : Nat} (positive : 0 < unit.toNat)
    (below : index * unit.toNat < limit) (fits : limit ≤ UInt64.size) :
    (UInt64.ofNat index * unit).toNat = index * unit.toNat := by
  have small : index ≤ index * unit.toNat := Nat.le_mul_of_pos_right _ positive
  have size_eq : UInt64.size = 18446744073709551616 := rfl
  have index_eq : (UInt64.ofNat index).toNat = index := by
    rw [UInt64.toNat_ofNat']
    exact Nat.mod_eq_of_lt (by omega)
  rw [UInt64.toNat_mul, index_eq]
  exact Nat.mod_eq_of_lt (by omega)

end Word64

/-! ### The plans -/

/-- Where a part lies. -/
def Part.extent (part : Part) : Extent := (part.offset.toNat, part.length.toNat)

/-- Where a chunk lies. -/
def Chunk.extent (chunk : Chunk) : Extent := (chunk.start.toNat, chunk.length)

/-- **The plan of an upload is a cut into extents of the part size.** -/
theorem Part.extents_plan (total partSize : UInt64) :
    (Part.plan total partSize).map Part.extent =
      cut total.toNat (max partSize.toNat 1) (cutCount total.toNat (max partSize.toNat 1)) := by
  have size_eq : (max partSize 1).toNat = max partSize.toNat 1 := Word64.toNat_max _ _
  have positive : 0 < (max partSize 1).toNat := by omega
  have count_eq := Word64.toNat_ceilDiv total (max partSize 1) positive
  simp only [Part.plan, cut, List.map_map, count_eq, ← size_eq]
  refine List.map_congr_left fun index mem => ?_
  have below := (cutCount_spec _ positive).2 index (List.mem_range.mp mem)
  have offset_eq := Word64.toNat_ofNat_mul positive below (Nat.le_of_lt total.toNat_lt)
  simp only [Function.comp_apply, Part.extent, Word64.toNat_min, offset_eq]
  rw [UInt64.toNat_sub_of_le _ _ (UInt64.le_iff_toNat_le.mpr (by omega)), offset_eq]

/-- The parts of an upload follow one another from the start to the end. -/
theorem Part.tiles_plan (total partSize : UInt64) :
    Tiles 0 total.toNat ((Part.plan total partSize).map Part.extent) := by
  rw [Part.extents_plan]
  exact tiles_cut (by omega)

/-- A part of an upload starts where all parts before it end, as these are full. -/
theorem Part.offset_of_getElem?_plan {total partSize : UInt64} {index : Nat} {part : Part}
    (h : (Part.plan total partSize)[index]? = some part) :
    part.offset.toNat = index * max partSize.toNat 1 := by
  have extent_eq : ((Part.plan total partSize).map Part.extent)[index]? = some part.extent := by
    rw [List.getElem?_map, h, Option.map_some]
  rw [Part.extents_plan, cut, List.getElem?_map, Option.map_eq_some_iff] at extent_eq
  obtain ⟨position, found, same⟩ := extent_eq
  obtain ⟨_, rfl⟩ := List.getElem?_eq_some_iff.mp found
  rw [List.getElem_range] at same
  exact (congrArg Prod.fst same).symm

/-- The parts of a plan are numbered in their order. -/
theorem Part.map_index_plan (total partSize : UInt64) :
    (Part.plan total partSize).map Part.index = List.range (Part.plan total partSize).length := by
  simp only [Part.plan, List.map_map, List.length_map, List.length_range]
  exact List.map_id _

/-- **The plan of a download is a cut into extents of the chunk size**, unless a chunk has its ends
the wrong way round. -/
theorem Chunk.extents_plan {size chunkSize : UInt64}
    (ordered : ∀ chunk ∈ Chunk.plan size chunkSize, chunk.start < chunk.finish) :
    (Chunk.plan size chunkSize).map Chunk.extent =
      cut size.toNat (max chunkSize.toNat 1) (cutCount size.toNat (max chunkSize.toNat 1)) := by
  have step_eq : (max chunkSize 1).toNat = max chunkSize.toNat 1 := Word64.toNat_max _ _
  have positive : 0 < (max chunkSize 1).toNat := by omega
  have count_eq := Word64.toNat_ceilDiv size (max chunkSize 1) positive
  simp only [Chunk.plan, cut, List.map_map, List.mem_map, count_eq, ← step_eq] at ordered ⊢
  refine List.map_congr_left fun index mem => ?_
  have below := (cutCount_spec _ positive).2 index (List.mem_range.mp mem)
  have start_eq := Word64.toNat_ofNat_mul positive below (Nat.le_of_lt size.toNat_lt)
  have forward := UInt64.lt_iff_toNat_lt.mp (ordered _ ⟨index, mem, rfl⟩)
  have bound := (max chunkSize 1).toNat_lt
  -- a sum past 64 bits would come out below the start
  have sum_eq : (UInt64.ofNat index * max chunkSize 1 + max chunkSize 1).toNat =
      index * (max chunkSize 1).toNat + (max chunkSize 1).toNat := by
    simp only [Word64.toNat_min, UInt64.toNat_add, start_eq] at forward ⊢
    have size_bound := size.toNat_lt
    omega
  simp only [Function.comp_apply, Chunk.extent, Chunk.length, Word64.toNat_min, sum_eq, start_eq]
  congr 1
  omega

/-- No chunk of an object that can be held has its ends the wrong way round. -/
theorem Chunk.start_lt_finish_of_fits {size chunkSize : UInt64} (fits : size.toNat < 2 ^ 63) :
    ∀ chunk ∈ Chunk.plan size chunkSize, chunk.start < chunk.finish := by
  have step_eq : (max chunkSize 1).toNat = max chunkSize.toNat 1 := Word64.toNat_max _ _
  have positive : 0 < (max chunkSize 1).toNat := by omega
  have count_eq := Word64.toNat_ceilDiv size (max chunkSize 1) positive
  intro chunk planned
  obtain ⟨index, counted, rfl⟩ := List.mem_map.mp planned
  rw [List.mem_range, count_eq] at counted
  have below := (cutCount_spec _ positive).2 index counted
  have start_eq := Word64.toNat_ofNat_mul positive below (Nat.le_of_lt size.toNat_lt)
  have bound := (max chunkSize 1).toNat_lt
  -- only the first chunk can be longer than the object, and it starts at zero
  have sum_eq : (UInt64.ofNat index * max chunkSize 1 + max chunkSize 1).toNat =
      index * (max chunkSize 1).toNat + (max chunkSize 1).toNat := by
    rw [UInt64.toNat_add, start_eq]
    apply Nat.mod_eq_of_lt
    rcases Nat.eq_zero_or_pos index with rfl | later
    · omega
    · have := Nat.le_mul_of_pos_left (max chunkSize 1).toNat later
      omega
  rw [UInt64.lt_iff_toNat_lt]
  simp only [Word64.toNat_min, sum_eq, start_eq]
  omega

/-- The chunks of a download follow one another from the start to the end. -/
theorem Chunk.tiles_plan {size chunkSize : UInt64}
    (ordered : ∀ chunk ∈ Chunk.plan size chunkSize, chunk.start < chunk.finish) :
    Tiles 0 size.toNat ((Chunk.plan size chunkSize).map Chunk.extent) := by
  rw [Chunk.extents_plan ordered]
  exact tiles_cut (by omega)

/-- The chunks of a plan are numbered in their order. -/
theorem Chunk.index_of_getElem?_plan {size chunkSize : UInt64} {index : Nat} {chunk : Chunk}
    (h : (Chunk.plan size chunkSize)[index]? = some chunk) : chunk.index = index := by
  simp only [Chunk.plan, List.getElem?_map, Option.map_eq_some_iff] at h
  obtain ⟨position, found, rfl⟩ := h
  obtain ⟨_, rfl⟩ := List.getElem?_eq_some_iff.mp found
  simp

/-- The numbers of the chunks of a plan are those below their number. -/
theorem Chunk.map_index_plan (size chunkSize : UInt64) :
    (Chunk.plan size chunkSize).map Chunk.index = List.range (Chunk.plan size chunkSize).length := by
  simp only [Chunk.plan, List.map_map, List.length_map, List.length_range]
  exact List.map_id _

/-- An empty object has no chunks. -/
theorem Chunk.plan_zero (chunkSize : UInt64) : Chunk.plan 0 chunkSize = [] := by
  simp [Chunk.plan, Word64.ceilDiv]

/-! ### Whole records -/

/-- **The part size for whole records is computed without overflow**; it is a multiple of their
size, and not none. -/
theorem TransferOptions.toNat_partSize_alignedTo (options : TransferOptions) {unit : UInt64}
    (positive : 0 < unit.toNat) :
    (options.alignedTo unit).partSize.toNat =
      max (options.partSize.toNat / unit.toNat) 1 * unit.toNat := by
  have one : (1 : UInt64).toNat = 1 := rfl
  have unit_eq : (max unit 1).toNat = unit.toNat := by
    rw [Word64.toNat_max, one]
    omega
  have whole := Nat.div_mul_le_self options.partSize.toNat unit.toNat
  have fits : max (options.partSize.toNat / unit.toNat) 1 * unit.toNat < UInt64.size := by
    have size_bound := options.partSize.toNat_lt
    have unit_bound := unit.toNat_lt
    rcases Nat.le_total (options.partSize.toNat / unit.toNat) 1 with few | many
    · rw [Nat.max_eq_right few, Nat.one_mul]
      exact unit_bound
    · rw [Nat.max_eq_left many]
      exact Nat.lt_of_le_of_lt whole size_bound
  rw [alignedTo, UInt64.toNat_mul, Word64.toNat_max, UInt64.toNat_div, unit_eq, one]
  exact Nat.mod_eq_of_lt fits

/-- **All parts of a plan start at multiples of some unit** exactly if the part size is one, or there is
no second part. -/
theorem Part.dvd_offset_plan_iff {total partSize : UInt64} {unit : Nat} :
    (∀ part ∈ Part.plan total partSize, unit ∣ part.offset.toNat) ↔
      unit ∣ max partSize.toNat 1 ∨ (Part.plan total partSize).length ≤ 1 := by
  constructor
  · intro aligned
    by_cases few : (Part.plan total partSize).length ≤ 1
    · exact .inr few
    · have second := List.getElem?_eq_getElem (Nat.not_le.mp few)
      have offset_eq := Part.offset_of_getElem?_plan second
      rw [Nat.one_mul] at offset_eq
      exact .inl (offset_eq ▸ aligned _ (List.getElem_mem _))
  · rintro aligned part mem
    obtain ⟨index, below, rfl⟩ := List.mem_iff_getElem.mp mem
    rw [Part.offset_of_getElem?_plan (List.getElem?_eq_getElem below)]
    rcases aligned with divides | few
    · exact Nat.dvd_mul_left_of_dvd divides index
    · obtain rfl : index = 0 := by omega
      rw [Nat.zero_mul]
      exact Nat.dvd_zero unit

/-- Every part of a plan ends within the whole. -/
theorem Part.inside_plan {total partSize : UInt64} :
    ∀ part ∈ Part.plan total partSize, part.offset.toNat + part.length.toNat ≤ total.toNat :=
  fun _ mem => ((Part.tiles_plan total partSize).bounds _ (List.mem_map_of_mem mem)).2

/-- If the part size is a multiple of some unit, every part of a plan starts at a multiple of it,
and ends within the whole. -/
theorem Part.aligned_plan {total partSize : UInt64} {unit : Nat} (positive : 0 < partSize.toNat)
    (aligned : unit ∣ partSize.toNat) : ∀ part ∈ Part.plan total partSize,
      unit ∣ part.offset.toNat ∧ part.offset.toNat + part.length.toNat ≤ total.toNat := by
  intro part mem
  have divides : unit ∣ max partSize.toNat 1 := by
    rw [Nat.max_eq_left positive]
    exact aligned
  exact ⟨Part.dvd_offset_plan_iff.mpr (.inl divides) part mem, Part.inside_plan part mem⟩

end GraphOffload

import GraphOffload.Proofs.Transfer.Tiling
import Mathlib.Algebra.Order.Floor.Div
import Mathlib.Order.Bounds.Defs

/-!
# Plans for whole records

The parts of an upload of records are to be of about the wanted size, and to start at records. All of
this is computed in 64-bit words; still the plan is the one over the natural numbers, for all words,
and no step on the way leaves them.

## Main definitions

* `GraphOffload.Part.plan?`, `GraphOffload.TransferOptions.alignedTo?` : a plan, and a part size, in
  which each step is checked to fit 64 bits.
* `GraphOffload.CutsEvenly` : a whole cut into extents of one size, without gap.
* `GraphOffload.HoldsRecords` : what the size of parts for whole records is to be.

## Main results

* `GraphOffload.Part.plan?_eq` : no step of a plan leaves 64 bits.
* `GraphOffload.cutsEvenly_cut` : a cut with as many extents as it takes is even.
* `GraphOffload.Part.plan_alignedTo` : the plan of an upload of records cuts it evenly at records.
-/

namespace GraphOffload

/-! ### Checked plans -/

/-- The difference, if it is no negative number. -/
def Word64.sub? (a b : UInt64) : Option UInt64 :=
  if b ≤ a then some (a - b) else none

/-- How many blocks of `unit` a length takes, if that fits 64 bits. -/
def Word64.ceilDiv? (length unit : UInt64) : Option UInt64 :=
  if length % unit = 0 then some (length / unit) else add? (length / unit) 1

/-- The parts of a whole, if each step of the plan fits 64 bits. -/
def Part.plan? (total partSize : UInt64) : Option (List Part) := do
  let size := max partSize 1
  let count ← Word64.ceilDiv? total size
  (List.range count.toNat).mapM fun index => do
    let offset ← Word64.mul? (.ofNat index) size
    let left ← Word64.sub? total offset
    return ⟨index, offset, min size left⟩

/-- Options whose part size is a multiple of `unit` bytes, if that fits 64 bits. -/
def TransferOptions.alignedTo? (options : TransferOptions) (unit : UInt64) : Option TransferOptions := do
  let unit := max unit 1
  let partSize ← Word64.mul? (max (options.partSize / unit) 1) unit
  return { options with partSize := partSize }

/-- Division that rounds up does not leave 64 bits. -/
theorem Word64.ceilDiv?_eq (length : UInt64) {unit : UInt64} (positive : 0 < unit.toNat) :
    ceilDiv? length unit = some (ceilDiv length unit) := by
  have exact_count := toNat_ceilDiv length unit positive
  have count_lt := (ceilDiv length unit).toNat_lt
  have size_eq : UInt64.size = 18446744073709551616 := rfl
  unfold ceilDiv ceilDiv? at *
  split
  · rfl
  · rename_i uneven
    have uneven' : ¬ length.toNat % unit.toNat = 0 := by
      intro even
      exact uneven (UInt64.toNat_inj.mp (by rw [UInt64.toNat_mod, even, UInt64.toNat_zero]))
    have one : (1 : UInt64).toNat = 1 := rfl
    rw [if_neg uneven, cutCount, if_neg uneven'] at exact_count
    rw [if_neg uneven] at count_lt
    refine if_pos ?_
    rw [UInt64.toNat_div, one]
    omega

/-- The product of a number and a word that lies below a word fits 64 bits. -/
theorem Word64.mul?_ofNat {index : Nat} {unit limit : UInt64} (positive : 0 < unit.toNat)
    (below : index * unit.toNat < limit.toNat) :
    mul? (.ofNat index) unit = some (.ofNat index * unit) := by
  have small := Nat.le_mul_of_pos_right index positive
  have bound := limit.toNat_lt
  have size_eq : UInt64.size = 18446744073709551616 := rfl
  refine if_pos ?_
  rw [UInt64.toNat_ofNat', Nat.mod_eq_of_lt (by omega)]
  omega

/-- Every item of a list has a value, and so has the list. -/
theorem mapM_eq_some_map {α β : Type} {f : α → Option β} {g : α → β} {list : List α}
    (each : ∀ item ∈ list, f item = some (g item)) : list.mapM f = some (list.map g) := by
  induction list with
  | nil => rfl
  | cons item rest ih =>
    obtain ⟨first, others⟩ := List.forall_mem_cons.mp each
    rw [List.mapM_cons, first, ih others]
    rfl

/-- **No step of a plan leaves 64 bits.**

**Proof sketch.** Every part of the plan starts before the end of the whole, which is a word. -/
theorem Part.plan?_eq (total partSize : UInt64) : plan? total partSize = some (plan total partSize) := by
  have size_eq : (max partSize 1).toNat = max partSize.toNat 1 := Word64.toNat_max _ _
  have positive : 0 < (max partSize 1).toNat := by omega
  have count_eq := Word64.toNat_ceilDiv total (max partSize 1) positive
  simp only [plan?, plan, Word64.ceilDiv?_eq total positive, Option.bind_eq_bind, Option.bind_some]
  refine mapM_eq_some_map fun index mem => ?_
  rw [List.mem_range, count_eq] at mem
  have below := (cutCount_spec _ positive).2 index mem
  have offset_eq := Word64.toNat_ofNat_mul positive below (Nat.le_of_lt total.toNat_lt)
  have fits := Word64.mul?_ofNat positive below
  have left : Word64.sub? total (.ofNat index * max partSize 1) =
      some (total - .ofNat index * max partSize 1) := by
    refine if_pos (UInt64.le_iff_toNat_le.mpr ?_)
    rw [offset_eq]
    exact Nat.le_of_lt below
  simp [fits, left]

/-- The part size for whole records does not leave 64 bits. -/
theorem TransferOptions.alignedTo?_eq (options : TransferOptions) {unit : UInt64}
    (positive : 0 < unit.toNat) : options.alignedTo? unit = some (options.alignedTo unit) := by
  have exact_size := options.toNat_partSize_alignedTo positive
  have size_lt := (options.alignedTo unit).partSize.toNat_lt
  have one : (1 : UInt64).toNat = 1 := rfl
  have unit_eq : (max unit 1).toNat = unit.toNat := by
    rw [Word64.toNat_max, one]
    omega
  have fits : Word64.mul? (max (options.partSize / max unit 1) 1) (max unit 1) =
      some (max (options.partSize / max unit 1) 1 * max unit 1) := by
    refine if_pos ?_
    rw [Word64.toNat_max, UInt64.toNat_div, unit_eq, one, ← exact_size]
    exact size_lt
  simp only [alignedTo?, fits]
  rfl

/-- Records of no bytes count as records of one byte. -/
theorem TransferOptions.alignedTo_max_one (options : TransferOptions) (unit : UInt64) :
    options.alignedTo (max unit 1) = options.alignedTo unit ∧
      options.alignedTo? (max unit 1) = options.alignedTo? unit := by
  have same : max (max unit 1) 1 = max unit 1 := by
    rw [← UInt64.toNat_inj]
    simp
  constructor
  · rw [alignedTo, same]
    rfl
  · rw [alignedTo?, same]
    rfl

/-! ### Even cuts -/

/-- A whole of `total` bytes is cut into extents of `size` bytes, the last of which may be smaller. -/
structure CutsEvenly (total size : Nat) (extents : List Extent) : Prop where
  /-- There are as many as it takes. -/
  length_eq : extents.length = total ⌈/⌉ size
  start_eq : ∀ index extent, extents[index]? = some extent → extent.1 = index * size
  nonempty : ∀ extent ∈ extents, 0 < extent.2
  full : ∀ index extent, extents[index]? = some extent → index + 1 < extents.length → extent.2 = size
  sum_eq : (extents.map Prod.snd).sum = total
  /-- They follow one another from the start to the end. -/
  tiles : Tiles 0 total extents

/-- The lengths of a tiling sum up to what it covers. -/
theorem Tiles.sum_eq {start finish : Nat} {extents : List Extent} (tiles : Tiles start finish extents) :
    start + (extents.map Prod.snd).sum = finish := by
  induction extents generalizing start with
  | nil => exact tiles
  | cons extent rest ih =>
    have := ih tiles.2.2
    rw [List.map_cons, List.sum_cons]
    omega

/-- No extent of a tiling is empty. -/
theorem Tiles.nonempty {start finish : Nat} {extents : List Extent}
    (tiles : Tiles start finish extents) : ∀ extent ∈ extents, 0 < extent.2 := by
  induction extents generalizing start with
  | nil => simp
  | cons extent rest ih => exact List.forall_mem_cons.mpr ⟨tiles.2.1, ih tiles.2.2⟩

/-- The number of extents is the quotient rounded up. -/
theorem cutCount_eq_ceilDiv (total : Nat) {size : Nat} (positive : 0 < size) :
    cutCount total size = total ⌈/⌉ size := by
  obtain ⟨enough, nonempty⟩ := cutCount_spec total positive
  apply le_antisymm
  · by_contra fewer
    have short := nonempty _ (Nat.not_le.mp fewer)
    have := le_smul_ceilDiv (a := size) (b := total) positive
    rw [smul_eq_mul, Nat.mul_comm] at this
    omega
  · rw [ceilDiv_le_iff_le_smul positive, smul_eq_mul, Nat.mul_comm]
    exact enough

/-- The extents of a cut, by their number. -/
theorem getElem?_cut {total size count index : Nat} {extent : Extent} :
    (cut total size count)[index]? = some extent ↔
      index < count ∧ extent = (index * size, min size (total - index * size)) := by
  simp only [cut, List.getElem?_map, Option.map_eq_some_iff, List.getElem?_eq_some_iff,
    List.length_range, List.getElem_range]
  constructor
  · rintro ⟨_, ⟨below, rfl⟩, rfl⟩
    exact ⟨below, rfl⟩
  · rintro ⟨below, rfl⟩
    exact ⟨index, ⟨below, rfl⟩, rfl⟩

/-- **A cut with as many extents as it takes is even.**

**Proof sketch.** Where one more extent starts there are bytes left, so the extent before it is
full; the rest is known of tilings. -/
theorem cutsEvenly_cut (total : Nat) {size : Nat} (positive : 0 < size) :
    CutsEvenly total size (cut total size (cutCount total size)) where
  length_eq := by rw [cut, List.length_map, List.length_range, cutCount_eq_ceilDiv total positive]
  start_eq index extent found := by
    obtain ⟨_, rfl⟩ := getElem?_cut.mp found
    rfl
  nonempty := (tiles_cut positive).nonempty
  full index extent found before := by
    obtain ⟨_, rfl⟩ := getElem?_cut.mp found
    rw [cut, List.length_map, List.length_range] at before
    have next := (cutCount_spec total positive).2 (index + 1) before
    rw [Nat.succ_mul] at next
    exact Nat.min_eq_left (by omega)
  sum_eq := by
    have tiles : Tiles 0 total (cut total size (cutCount total size)) := tiles_cut positive
    have := tiles.sum_eq
    omega
  tiles := tiles_cut positive

/-- If the size is a multiple of some unit, so is where each extent of a cut starts; if the total is one,
too, then so is the length of each. -/
theorem dvd_of_mem_cut {total size count unit : Nat} (aligned : unit ∣ size) :
    ∀ extent ∈ cut total size count, unit ∣ extent.1 ∧ (unit ∣ total → unit ∣ extent.2) := by
  intro extent mem
  obtain ⟨index, _, rfl⟩ := List.mem_map.mp mem
  have start_dvd : unit ∣ index * size := Nat.dvd_mul_left_of_dvd aligned index
  refine ⟨start_dvd, fun whole => ?_⟩
  rcases Nat.le_total size (total - index * size) with full | last
  · rwa [Nat.min_eq_left full]
  · rw [Nat.min_eq_right last]
    exact Nat.dvd_sub whole start_dvd

/-! ### Plans for records -/

/-- The size of parts for whole records of `unit` bytes, if parts of `wanted` bytes are asked for;
records of no bytes count as records of one byte. -/
structure HoldsRecords (wanted unit size : Nat) : Prop where
  positive : 0 < size
  whole : max unit 1 ∣ size
  le : size ≤ max (max wanted unit) 1
  /-- Nothing is given away if a record fits. -/
  greatest : 1 ≤ unit → unit ≤ wanted →
    IsGreatest {multiple | 0 < multiple ∧ max unit 1 ∣ multiple ∧ multiple ≤ wanted} size

/-- The quotient rounded down, but at least one, gives the part size for whole records. -/
theorem holdsRecords_max_div_mul (wanted unit : Nat) :
    HoldsRecords wanted unit (max (wanted / max unit 1) 1 * max unit 1) where
  positive := Nat.mul_pos (by omega) (by omega)
  whole := Nat.dvd_mul_left _ _
  le := by
    have := Nat.div_mul_le_self wanted (max unit 1)
    rw [← Nat.mul_max_mul_right, Nat.one_mul]
    omega
  greatest some_bytes fits := by
    have unit_eq : max unit 1 = unit := Nat.max_eq_left some_bytes
    have some_record : 1 ≤ wanted / unit := (Nat.one_le_div_iff some_bytes).mpr fits
    rw [unit_eq, Nat.max_eq_left some_record]
    refine ⟨⟨Nat.mul_pos some_record some_bytes, Nat.dvd_mul_left _ _, Nat.div_mul_le_self _ _⟩, ?_⟩
    rintro multiple ⟨_, ⟨records, rfl⟩, below⟩
    rw [Nat.mul_comm unit records] at below ⊢
    exact Nat.mul_le_mul_right unit ((Nat.le_div_iff_mul_le some_bytes).mpr below)

namespace TransferOptions

variable (options : TransferOptions) (unit : UInt64)

/-- The part size for whole records is computed without overflow, also for records of no bytes. -/
theorem toNat_partSize_alignedTo_max_one :
    (options.alignedTo unit).partSize.toNat =
      max (options.partSize.toNat / max unit.toNat 1) 1 * max unit.toNat 1 := by
  have unit_eq : (max unit 1).toNat = max unit.toNat 1 := Word64.toNat_max _ _
  rw [← (options.alignedTo_max_one unit).1, toNat_partSize_alignedTo options (by omega), unit_eq]

/-- No step on the way to the part size for whole records leaves 64 bits. -/
theorem alignedTo?_eq_some : options.alignedTo? unit = some (options.alignedTo unit) := by
  have unit_eq : (max unit 1).toNat = max unit.toNat 1 := Word64.toNat_max _ _
  rw [← (options.alignedTo_max_one unit).1, ← (options.alignedTo_max_one unit).2]
  exact options.alignedTo?_eq (by omega)

end TransferOptions

/-- **The plan of an upload of records cuts it evenly at records**: the part size is a multiple of the
record size, and the largest one that does not exceed what was asked for, if a record fits; the parts
are numbered in their order, are all of that size but the last, and leave no gap; and no step of
the computation leaves 64 bits.

**Proof sketch.** In words or over the natural numbers, the plan is the same cut, and of cuts all of
this is known. -/
theorem Part.plan_alignedTo (options : TransferOptions) (unit total : UInt64) :
    let size := (options.alignedTo unit).partSize
    let parts := Part.plan total size
    HoldsRecords options.partSize.toNat unit.toNat size.toNat ∧
      CutsEvenly total.toNat size.toNat (parts.map Part.extent) ∧
      parts.map Part.index = List.range parts.length ∧
      (∀ part ∈ parts, max unit.toNat 1 ∣ part.offset.toNat) ∧
      (unit.toNat ∣ total.toNat → ∀ part ∈ parts, unit.toNat ∣ part.length.toNat) ∧
      options.alignedTo? unit = some (options.alignedTo unit) ∧ Part.plan? total size = some parts := by
  intro size parts
  have size_ok : HoldsRecords options.partSize.toNat unit.toNat size.toNat := by
    rw [options.toNat_partSize_alignedTo_max_one unit]
    exact holdsRecords_max_div_mul _ _
  have extents_eq :
      parts.map Part.extent = cut total.toNat size.toNat (cutCount total.toNat size.toNat) := by
    have extents := Part.extents_plan total size
    rwa [Nat.max_eq_left size_ok.positive] at extents
  have even : CutsEvenly total.toNat size.toNat (parts.map Part.extent) :=
    extents_eq ▸ cutsEvenly_cut total.toNat size_ok.positive
  have extent_mem : ∀ part ∈ parts,
      part.extent ∈ cut total.toNat size.toNat (cutCount total.toNat size.toNat) := by
    intro part mem
    rw [← extents_eq]
    exact List.mem_map_of_mem mem
  have unit_dvd : unit.toNat ∣ max unit.toNat 1 ∨ unit.toNat = 0 := by
    rcases Nat.eq_zero_or_pos unit.toNat with none | some
    · exact .inr none
    · exact .inl (by rw [Nat.max_eq_left some])
  refine ⟨size_ok, even, Part.map_index_plan total size, ?_, ?_, options.alignedTo?_eq_some unit,
    Part.plan?_eq total size⟩
  · intro part mem
    exact (dvd_of_mem_cut size_ok.whole _ (extent_mem part mem)).1
  · intro whole part mem
    rcases unit_dvd with aligned | none
    · exact (dvd_of_mem_cut (aligned.trans size_ok.whole) _ (extent_mem part mem)).2 whole
    · -- a whole of no bytes has no parts
      have inside := even.tiles.bounds _ (List.mem_map_of_mem mem)
      have some_bytes := even.nonempty _ (List.mem_map_of_mem mem)
      rw [none, Nat.zero_dvd] at whole
      omega

/-- Not all parts start at multiples of no bytes, if records of no bytes are asked for. -/
theorem Part.plan_alignedTo_zero :
    ¬ ∀ part ∈ Part.plan 8 (TransferOptions.alignedTo ⟨4, 1, 1⟩ 0).partSize,
      (0 : UInt64).toNat ∣ part.offset.toNat := by
  decide

end GraphOffload

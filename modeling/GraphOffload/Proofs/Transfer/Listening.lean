import GraphOffload.Proofs.Transfer.Progress

/-!
# What the listener of a transfer is told

A listener hears of a transfer when it begins, each time a piece of it was moved, and when all of it is
done. Where the store does not let it begin, the listener hears nothing; where it breaks off, there is
no end to hear of. The bytes are counted at the end only, and then all of them.

## Main definitions

* `GraphOffload.Planned` : what is to be moved, and in pieces of which sizes.
* `GraphOffload.Conveys` : what a transfer does between its beginning and its end.
* `GraphOffload.Transfer` : an upload or a download.
* `GraphOffload.Transfer.Passes` : how a transfer passes.
* `GraphOffload.Transfer.Reports` : a transfer tells its listener what it does.

## Main results

* `GraphOffload.Transfer.passes_of_run` : every transfer passes in one of two ways.
* `GraphOffload.Transfer.measured_of_run` : what a transfer counts.
* `GraphOffload.Transfer.eq_length_of_run` : an upload that succeeds has sent its whole source.
* `GraphOffload.Transfer.run_reports` : every transfer tells its listener what it does.
-/

namespace GraphOffload

open Attempting

/-! ### Between the beginning and the end -/

/-- What is to be moved: so many bytes, and in pieces of the given sizes if there is more than one step
to it. -/
structure Planned where
  total : Nat
  pieces : List Nat

/-- What a transfer does once it was begun, until it is done or breaks off. -/
structure Conveys (key : String) (planned : Planned) (trace : Trace) (outcome : Except Failure Nat) :
    Prop where
  progresses : ∃ left, Progresses key planned.total 0 planned.pieces trace left ∧
    ∀ moved, outcome = .ok moved → left = []
  sum_le : planned.pieces.sum ≤ planned.total
  /-- No piece is empty, unless one was planned and the store gave it. -/
  positive : ((∀ size ∈ planned.pieces, 0 < size) ∨ trace.RefusesEmptyRanges) →
    ∀ size ∈ trace.moves, 0 < size
  whole : (∀ size ∈ trace.moves, 0 < size) → ∀ moved, outcome = .ok moved →
    moved = planned.total ∧ (planned.pieces = [] ∨ planned.pieces.sum = planned.total)

namespace Conveys

variable {key : String} {trace : Trace} {outcome : Except Failure Nat}

/-- The listener is told of no piece of what is moved as a whole. -/
theorem of_quiet {total : Nat} (quiet : ∀ exchange ∈ trace, exchange.Quiet)
    (whole : ∀ moved, outcome = .ok moved → moved = total) : Conveys key ⟨total, []⟩ trace outcome where
  progresses := ⟨[], .of_quiet quiet, fun _ _ => rfl⟩
  sum_le := Nat.zero_le _
  positive _ size mem := by
    rw [Trace.moves_eq_nil quiet] at mem
    exact absurd mem List.not_mem_nil
  whole _ moved same := ⟨whole moved same, .inl rfl⟩

/-- Pieces that are moved one by one, none of which is empty. -/
theorem of_settles {planned : Planned}
    (settles : Settles key planned.total 0 planned.pieces trace outcome)
    (nonempty : ∀ size ∈ planned.pieces, 0 < size) (sum_eq : planned.pieces.sum = planned.total) :
    Conveys key planned trace outcome := by
  obtain ⟨left, progresses, settled⟩ := settles
  constructor
  case progresses => exact ⟨left, progresses, fun moved same => (settled moved same).1⟩
  case sum_le => exact sum_eq.le
  case positive => exact fun _ size mem => nonempty size (progresses.mem_pending size mem)
  case whole =>
    intro _ moved same
    obtain ⟨rfl, rfl⟩ := settled moved same
    have total_eq := progresses.sum_eq
    rw [sum_eq, List.sum_nil, Nat.add_zero] at total_eq
    exact ⟨by omega, .inr sum_eq⟩

/-- The bytes moved so far grow up to the whole. -/
theorem growing {planned : Planned} (conveys : Conveys key planned trace outcome)
    (nonempty : ∀ size ∈ trace.moves, 0 < size) :
    (runningTotals 0 trace.moves).Pairwise (· < ·) ∧
      ∀ count ∈ runningTotals 0 trace.moves, 0 < count ∧ count ≤ planned.total := by
  obtain ⟨left, progresses, _⟩ := conveys.progresses
  obtain ⟨increasing, bounded, _⟩ := pairwise_runningTotals nonempty 0
  obtain ⟨above, increasing⟩ := List.pairwise_cons.mp increasing
  have sum_eq := progresses.sum_eq
  have sum_le := conveys.sum_le
  refine ⟨increasing, fun count mem => ⟨above count mem, ?_⟩⟩
  have := bounded count mem
  omega

/-- When all is done, the last that was told is the whole. -/
theorem last_eq {planned : Planned} (conveys : Conveys key planned trace outcome)
    (nonempty : ∀ size ∈ trace.moves, 0 < size) {moved : Nat} (same : outcome = .ok moved) :
    ∀ last ∈ (runningTotals 0 trace.moves).getLast?, last = moved := by
  obtain ⟨left, progresses, settled⟩ := conveys.progresses
  obtain rfl := settled moved same
  obtain ⟨total_eq, all⟩ := conveys.whole nonempty moved same
  obtain ⟨_, _, last⟩ := pairwise_runningTotals nonempty 0
  intro count mem
  rw [last] at mem
  split at mem
  · cases mem
  · rename_i some_moved
    obtain rfl := Option.some.inj mem
    rcases all with none_planned | whole
    · have perm := progresses.perm
      rw [none_planned] at perm
      exact absurd (List.append_eq_nil_iff.mp perm.nil_eq.symm).1 some_moved
    · have sum_eq := progresses.sum_eq
      rw [List.sum_nil, Nat.add_zero] at sum_eq
      omega

end Conveys

/-- What is to be moved of an upload, if there is no object yet. -/
def UploadSource.planned (source : UploadSource) : Planned where
  total := source.length
  pieces :=
    match source with
    | .read area total =>
      if area.multipart ∧ 0 < total then Upload.sizes (Part.plan total area.options.partSize) else []
    | .bytes _ => []

/-- No piece of an upload is empty. -/
theorem UploadSource.pos_of_mem_pieces (source : UploadSource) :
    ∀ size ∈ source.planned.pieces, 0 < size := by
  cases source with
  | bytes data => exact List.forall_mem_nil _
  | read area total =>
    rw [planned]
    by_cases inParts : area.multipart ∧ 0 < total
    · simp only [if_pos inParts]
      exact (Upload.sizes_plan total area.options.partSize).1
    · simp only [if_neg inParts]
      exact List.forall_mem_nil _

/-- An upload moves its parts, or moves all at once. -/
theorem UploadSource.conveys_send {key : String} {source : UploadSource} {trace : Trace}
    {outcome : Except Failure Nat} (run : Run (source.send key) trace outcome) :
    Conveys key source.planned trace outcome := by
  cases source with
  | bytes data =>
    obtain ⟨quiet, whole⟩ := Upload.quiet_putWhole run
    exact .of_quiet quiet whole
  | read area total =>
    rw [send] at run
    rw [planned]
    by_cases inParts : area.multipart ∧ 0 < total
    · rw [if_pos inParts] at run
      simp only [if_pos inParts]
      obtain ⟨nonempty, sum_eq⟩ := Upload.sizes_plan total area.options.partSize
      exact .of_settles (Upload.settles_inParts run) nonempty sum_eq
    · rw [if_neg inParts] at run
      simp only [if_neg inParts]
      obtain ⟨quiet, whole⟩ := Upload.quiet_inOnePiece run
      exact .of_quiet quiet whole

namespace Download

/-- What is to be moved of an object of the given size. -/
def planned (options : TransferOptions) (size : UInt64) : Planned :=
  ⟨size.toNat, (Chunk.plan size options.chunkSize).map Chunk.length⟩

variable {options : TransferOptions} {key : String} {path : ObjectPath} {size : UInt64}
  {fetches writes : Trace} {fetched : Except Failure (List (Nat × Bytes))}
  {outcome : Except Failure Nat}

/-- A download moves its chunks, and what it writes then is no news.

**Proof sketch.** If it comes to its end, all chunks were moved and written. None of them is empty then,
so that their ends are in order, and they cover the object. -/
theorem conveys_fetch (parsed : ObjectPath.parse key = .ok path)
    (fetching : Run (fetchAll key path size.toNat options.atOnce (Chunk.plan size options.chunkSize))
      fetches fetched)
    (quiet : ∀ exchange ∈ writes, exchange.Quiet)
    (done : ∀ moved, outcome = .ok moved → ∃ arrived, fetched = .ok arrived ∧
      Run (writeInOrder key arrived (Chunk.plan size options.chunkSize).length) writes (.ok moved)) :
    Conveys key (planned options size) (fetches ++ writes) outcome := by
  have enough : ({ waiting := Chunk.plan size options.chunkSize } : Fetching).stepsLeft ≤
      2 * (Chunk.plan size options.chunkSize).length := Nat.le_refl _
  obtain ⟨left, progresses, settled⟩ := progresses_fetch fetching (Nat.le_max_right _ _) enough
  have moves_eq : Trace.moves (fetches ++ writes) = fetches.moves := by
    rw [Trace.moves_append, Trace.moves_eq_nil quiet, List.append_nil]
  have pieces_eq : (planned options size).pieces =
      Fetching.pending { waiting := Chunk.plan size options.chunkSize } := rfl
  constructor
  case progresses =>
    refine ⟨left, progresses.trans (.of_quiet quiet), fun moved same => ?_⟩
    obtain ⟨arrived, came, _⟩ := done moved same
    exact settled arrived came
  case sum_le => exact Chunk.sum_length_plan_le size options.chunkSize
  case positive =>
    rw [moves_eq]
    rintro (nonempty | refuses) count mem
    · exact nonempty count (progresses.mem_pending count mem)
    · obtain ⟨range, came, rfl⟩ := exists_range_of_mem_moves fetching parsed count mem
      have ordered : range.start < range.finish := by
        apply refuses
        rw [Trace.ranges_append]
        exact List.mem_append_left _ came
      omega
  case whole =>
    rw [moves_eq]
    intro nonempty moved same
    obtain ⟨arrived, rfl, writing⟩ := done moved same
    obtain rfl := settled arrived rfl
    have perm := progresses.perm
    rw [List.append_nil] at perm
    have forward : ∀ chunk ∈ Chunk.plan size options.chunkSize, chunk.start < chunk.finish := by
      intro chunk mem
      have some_bytes := nonempty _ (perm.mem_iff.mp (List.mem_map_of_mem mem))
      rw [Chunk.length] at some_bytes
      exact UInt64.lt_iff_toNat_lt.mpr (by omega)
    have sum_eq := (Chunk.tiles_plan forward).sum_eq
    rw [Nat.zero_add, List.map_map] at sum_eq
    exact ⟨(written_eq fetching writing).trans sum_eq, .inr sum_eq⟩

/-- Writing tells nothing. -/
theorem quiet_writeInOrder {chunks : List (Nat × Bytes)} {count : Nat}
    (run : Run (writeInOrder key chunks count) writes outcome) :
    ∀ exchange ∈ writes, exchange.Quiet := by
  intro exchange mem
  have sinks := run.forall_within (within_writeInOrder chunks count) exchange mem
  obtain ⟨call, reply⟩ := exchange
  cases call with
  | write data => exact ⟨rfl, rfl, rfl⟩
  | flush => exact ⟨rfl, rfl, rfl⟩
  | _ => cases sinks

end Download

/-! ### Transfers -/

/-- An upload, or a download into the sink. -/
inductive Transfer
  | upload (source : UploadSource)
  | download (options : TransferOptions)

namespace Transfer

/-- The transfer of the object under a key. -/
def program (key : String) : Transfer → Attempting Nat
  | upload source => source.upload key
  | download options => Download.object options key

/-- The direction in which the bytes are moved. -/
def direction : Transfer → Direction
  | upload _ => .upload
  | download _ => .download

/-- What is to be moved, if an answer of the store lets the transfer begin: there is no object yet under
the key of an upload, or there is the object that is downloaded. -/
def permitted? (transfer : Transfer) (exchange : Exchange) : Option Planned :=
  match transfer, exchange with
  | upload source, ⟨.head _, .error (.notFound _ _)⟩ => some source.planned
  | download options, ⟨.head _, .ok size⟩ => some (Download.planned options size)
  | _, _ => none

/-- What is to be moved, if the first answer of the store lets the transfer begin. -/
def planned? (transfer : Transfer) (trace : Trace) : Option Planned :=
  trace.head?.bind transfer.permitted?

/-- What is done before anything is moved. -/
def opening (first : Exchange) (key : String) (total : Nat) : Trace :=
  [first, ⟨.notify (.started key total), ()⟩]

/-- What is done after all was moved. -/
def ending (transfer : Transfer) (key : String) : Except Failure Nat → Trace
  | .ok moved => [⟨.count (.moved transfer.direction moved), ()⟩, ⟨.notify (.complete key moved), ()⟩]
  | .error _ => []

/-- A transfer passes in one of two ways: the store does not let it begin, or it is begun. -/
inductive Passes (transfer : Transfer) (key : String) : Trace → Except Failure Nat → Prop
  | unbegun {trace : Trace} {failure : Failure} (unplanned : transfer.planned? trace = none)
      (quiet : ∀ exchange ∈ trace, exchange.Quiet) : Passes transfer key trace (.error failure)
  | begun {first : Exchange} {planned : Planned} {middle : Trace} {outcome : Except Failure Nat}
      (permits : transfer.permitted? first = some planned) (quiet : first.Quiet)
      (conveys : Conveys key planned middle outcome) :
      Passes transfer key
        (opening first key planned.total ++ (middle ++ transfer.ending key outcome)) outcome

variable {transfer : Transfer} {key : String} {trace : Trace} {outcome : Except Failure Nat}

/-- An upload moves its source, whatever the answer that lets it begin. -/
theorem eq_planned_of_permits {source : UploadSource} {first : Exchange} {planned : Planned}
    (permits : permitted? (upload source) first = some planned) : planned = source.planned := by
  obtain ⟨call, reply⟩ := first
  cases call with
  | head path =>
    rcases reply with (_ | _ | _ | _) | size <;> cases permits
    rfl
  | _ => cases permits

/-- Every upload passes in one of these ways. -/
theorem passes_upload {source : UploadSource} (run : Run (source.upload key) trace outcome) :
    Passes (upload source) key trace outcome := by
  rw [UploadSource.upload_eq] at run
  cases parsed : ObjectPath.parse key with
  | error error =>
    obtain ⟨rfl, rfl⟩ := Upload.run_whole_of_error parsed run
    exact .unbegun rfl (by simp)
  | ok path =>
    rcases Upload.run_whole parsed run with ⟨reply, failure, rfl, means, rfl⟩ |
      ⟨reply, sending, absent, sent⟩
    · refine .unbegun ?_ (List.forall_mem_singleton.mpr ⟨rfl, rfl, rfl⟩)
      rcases reply with error | size
      · cases error <;> first | rfl | cases means
      · rfl
    · have permits : permitted? (upload source) ⟨.head path, reply⟩ = some source.planned := by
        rcases reply with error | size
        · cases error <;> first | rfl | cases absent
        · cases absent
      rcases sent with ⟨failure, rfl, run', rfl⟩ | ⟨moved, rfl, run', rfl⟩
      · have passes := Passes.begun permits ⟨rfl, rfl, rfl⟩ (UploadSource.conveys_send run')
        rwa [ending, List.append_nil] at passes
      · exact .begun permits ⟨rfl, rfl, rfl⟩ (UploadSource.conveys_send run')

/-- A download whose size was told is begun. -/
theorem passes_sized {options : TransferOptions} {path : ObjectPath} {size : UInt64} {fetches : Trace}
    {fetched : Except Failure (List (Nat × Bytes))} (writes : Trace) (outcome : Except Failure Nat)
    (parsed : ObjectPath.parse key = .ok path)
    (fetching : Run (Download.fetchAll key path size.toNat options.atOnce
      (Chunk.plan size options.chunkSize)) fetches fetched)
    (quiet : ∀ exchange ∈ writes, exchange.Quiet)
    (done : ∀ moved, outcome = .ok moved → ∃ arrived, fetched = .ok arrived ∧
      Run (Download.writeInOrder key arrived (Chunk.plan size options.chunkSize).length) writes
        (.ok moved)) :
    Passes (download options) key
      ([⟨.head path, .ok size⟩, ⟨.notify (.started key size.toNat), ()⟩] ++
        (fetches ++ (writes ++ ending (download options) key outcome))) outcome := by
  have asking : Exchange.Quiet ⟨.head path, .ok size⟩ := ⟨rfl, rfl, rfl⟩
  rw [← List.append_assoc fetches]
  exact .begun rfl asking (Download.conveys_fetch parsed fetching quiet done)

/-- Every download passes in one of these ways. -/
theorem passes_download {options : TransferOptions}
    (run : Run (Download.object options key) trace outcome) :
    Passes (download options) key trace outcome := by
  cases Download.ends_of_run run with
  | unnamed wrong => exact .unbegun rfl (by simp)
  | unsized parsed => exact .unbegun rfl (List.forall_mem_singleton.mpr ⟨rfl, rfl, rfl⟩)
  | @broken path size fetches failure parsed fetching =>
    simpa [ending] using passes_sized [] (.error failure) parsed fetching (by simp) nofun
  | @unwritten path size fetches writes arrived failure parsed fetching writing =>
    simpa [ending] using passes_sized writes (.error failure) parsed fetching
      (Download.quiet_writeInOrder writing) nofun
  | @delivered path size fetches writes arrived written parsed fetching writing =>
    refine passes_sized writes (.ok written) parsed fetching (Download.quiet_writeInOrder writing) ?_
    rintro moved ⟨⟩
    exact ⟨arrived, rfl, writing⟩

/-- Every transfer passes in one of these ways. -/
theorem passes_of_run (run : Run (transfer.program key) trace outcome) :
    Passes transfer key trace outcome := by
  cases transfer with
  | upload source => exact passes_upload run
  | download options => exact passes_download run

/-- What is told and counted at the end. -/
theorem ending_eq (transfer : Transfer) (key : String) (outcome : Except Failure Nat) :
    (transfer.ending key outcome).moves = [] ∧
    (transfer.ending key outcome).events = (outcome.toOption.map (.complete key)).toList ∧
    (transfer.ending key outcome).measured =
      (outcome.toOption.map (.moved transfer.direction)).toList := by
  cases outcome <;> exact ⟨rfl, rfl, rfl⟩

/-- What is moved, told and counted of a transfer that was begun. -/
theorem begun_eq (transfer : Transfer) {first : Exchange} {total : Nat} {pieces left : List Nat}
    {middle : Trace} (quiet : first.Quiet) (progresses : Progresses key total 0 pieces middle left)
    (outcome : Except Failure Nat) :
    let trace := opening first key total ++ (middle ++ transfer.ending key outcome)
    trace.moves = middle.moves ∧
    trace.events = .started key total :: (runningTotals 0 middle.moves).map (.progress key · total) ++
      (outcome.toOption.map (.complete key)).toList ∧
    trace.measured = (outcome.toOption.map (.moved transfer.direction)).toList := by
  obtain ⟨ending_moves, ending_events, ending_measured⟩ := ending_eq transfer key outcome
  have opening_moves : (opening first key total).moves = [] := List.filterMap_cons_none quiet.unmoved
  have opening_events : (opening first key total).events = [.started key total] :=
    List.filterMap_cons_none quiet.untold
  have opening_measured : (opening first key total).measured = [] :=
    List.filterMap_cons_none quiet.uncounted
  refine ⟨?_, ?_, ?_⟩
  · rw [Trace.moves_append, Trace.moves_append, opening_moves, ending_moves, List.nil_append,
      List.append_nil]
  · rw [Trace.events_append, Trace.events_append, opening_events, progresses.events_eq, ending_events]
    rfl
  · rw [Trace.measured_append, Trace.measured_append, opening_measured,
      Trace.measured_eq_nil progresses.uncounted, List.nil_append, List.nil_append, ending_measured]

/-- What a transfer counts: the bytes it gives, if it gives their number. -/
theorem measured_of_run (run : Run (transfer.program key) trace outcome) :
    trace.measured = (outcome.toOption.map (.moved transfer.direction)).toList := by
  cases passes_of_run run with
  | unbegun unplanned quiet =>
    exact Trace.measured_eq_nil fun exchange mem => (quiet exchange mem).uncounted
  | @begun first planned middle outcome permits quiet conveys =>
    obtain ⟨left, progresses, _⟩ := conveys.progresses
    exact (begun_eq transfer quiet progresses outcome).2.2

/-- By how much a transfer raises a series: that of its direction by the bytes it gives, if it gives
their number, and no other one. -/
theorem growth_of_run (run : Run (transfer.program key) trace outcome) (counter : String) :
    trace.growth counter =
      if counter = transfer.direction.counter then outcome.toOption.getD 0 else 0 := by
  rw [Trace.growth_eq, measured_of_run run]
  cases outcome with
  | error failure => exact (ite_self 0).symm
  | ok moved =>
    have increments_eq : (Measurement.moved transfer.direction moved).increments =
        [(transfer.direction.counter, moved)] := rfl
    by_cases same : transfer.direction.counter = counter
    · simp [Except.toOption, increments_eq, same]
    · simp [Except.toOption, increments_eq, same, Ne.symm same]

/-- An upload that succeeds has sent its whole source. -/
theorem eq_length_of_run {source : UploadSource} {sent : Nat}
    (run : Run (source.upload key) trace (.ok sent)) : sent = source.length := by
  cases passes_upload run with
  | begun permits quiet conveys =>
    obtain rfl := eq_planned_of_permits permits
    exact (conveys.whole (conveys.positive (.inl source.pos_of_mem_pieces)) sent rfl).1


/-! ### What the listener is told -/

/-- A transfer tells its listener what it does. -/
structure Reports (transfer : Transfer) (key : String) (trace : Trace) (outcome : Except Failure Nat) :
    Prop where
  /-- Nothing is told if the store does not let the transfer begin. -/
  unbegun : transfer.planned? trace = none → trace.events = [] ∧ ∃ failure, outcome = .error failure
  /-- Else the listener is told first that the transfer begins, then of each piece how many bytes were
  moved so far, and last that the transfer is complete, if it is. -/
  begun : ∀ planned, transfer.planned? trace = some planned →
    trace.events = .started key planned.total ::
      (runningTotals 0 trace.moves).map (.progress key · planned.total) ++
        (outcome.toOption.map (.complete key)).toList
  /-- Each planned piece is moved once at most, and once if the transfer is complete. -/
  pieces : ∀ planned, transfer.planned? trace = some planned →
    ∃ left, planned.pieces.Perm (trace.moves ++ left) ∧ ∀ moved, outcome = .ok moved → left = []
  /-- The bytes moved so far grow up to the whole. -/
  growing : ∀ planned, transfer.planned? trace = some planned →
    (runningTotals 0 trace.moves).Pairwise (· < ·) ∧
      ∀ count ∈ runningTotals 0 trace.moves, 0 < count ∧ count ≤ planned.total
  /-- A transfer that is complete has moved what was planned. -/
  whole : ∀ moved, outcome = .ok moved → ∃ planned, transfer.planned? trace = some planned ∧
    moved = planned.total ∧ ∀ last ∈ (runningTotals 0 trace.moves).getLast?, last = moved
  /-- The bytes are counted when the transfer is complete, and else none are. -/
  counted : ∀ counter, trace.growth counter =
    if counter = transfer.direction.counter then outcome.toOption.getD 0 else 0

/-- No download is of empty chunks: the object is one that can be held, or the store refuses ranges that
end where they start. -/
def Sound (transfer : Transfer) (trace : Trace) : Prop :=
  transfer.direction = .download →
    (∀ path size, ⟨.head path, .ok size⟩ ∈ trace → size.toNat < 2 ^ 63) ∨ trace.RefusesEmptyRanges

/-- No piece that is planned is empty, or the store does not give it. -/
theorem Sound.nonempty {first : Exchange} {planned : Planned} (sound : transfer.Sound trace)
    (permits : transfer.permitted? first = some planned) (mem : first ∈ trace) :
    (∀ size ∈ planned.pieces, 0 < size) ∨ trace.RefusesEmptyRanges := by
  cases transfer with
  | upload source =>
    rw [eq_planned_of_permits permits]
    exact .inl source.pos_of_mem_pieces
  | download options =>
    obtain ⟨call, reply⟩ := first
    cases call with
    | head path =>
      rcases reply with (_ | _ | _ | _) | size <;> cases permits
      refine (sound rfl).imp_left fun fits => List.forall_mem_map.mpr fun chunk planned => ?_
      have ordered := Chunk.start_lt_finish_of_fits (fits path size mem) chunk planned
      exact Nat.sub_pos_of_lt (UInt64.lt_iff_toNat_lt.mp ordered)
    | _ => cases permits

/-- **Every transfer tells its listener what it does.** Whatever the order of the acknowledgements or
arrivals, and wherever it breaks off, the listener is told that the transfer begins, how many bytes were
moved after each piece, and that it is complete, if it is; the bytes told of grow up to the whole, and
are counted if all were moved.

**Proof sketch.** Between its beginning and its end a transfer tells of the pieces that are moved, whose
sizes are those of the plan. If it comes to its end, none of them is left. -/
theorem run_reports (run : Run (transfer.program key) trace outcome) (sound : transfer.Sound trace) :
    Reports transfer key trace outcome := by
  have counted := growth_of_run run
  cases passes_of_run run with
  | unbegun unplanned quiet =>
    exact ⟨fun _ => ⟨Trace.events_eq_nil quiet, _, rfl⟩, by simp [unplanned], by simp [unplanned],
      by simp [unplanned], nofun, counted⟩
  | @begun first planned middle outcome permits quiet conveys =>
    have planned_eq : transfer.planned?
        (opening first key planned.total ++ (middle ++ transfer.ending key outcome)) = some planned :=
      permits
    obtain ⟨left, progresses, settled⟩ := conveys.progresses
    obtain ⟨moves_eq, events_eq, _⟩ := begun_eq transfer quiet progresses outcome
    -- no piece is empty: an empty one would be a range that the store refuses
    have nonempty : ∀ size ∈ middle.moves, 0 < size := by
      refine conveys.positive ((sound.nonempty permits List.mem_cons_self).imp_right ?_)
      intro refuses range mem
      apply refuses
      rw [Trace.ranges_append, Trace.ranges_append]
      exact List.mem_append_right _ (List.mem_append_left _ mem)
    constructor
    case unbegun =>
      rw [planned_eq]
      nofun
    case begun =>
      rintro _ same
      obtain rfl := Option.some.inj (planned_eq.symm.trans same)
      rw [moves_eq]
      exact events_eq
    case pieces =>
      rintro _ same
      obtain rfl := Option.some.inj (planned_eq.symm.trans same)
      rw [moves_eq]
      exact ⟨left, progresses.perm, settled⟩
    case growing =>
      rintro _ same
      obtain rfl := Option.some.inj (planned_eq.symm.trans same)
      rw [moves_eq]
      exact conveys.growing nonempty
    case whole =>
      intro moved same
      rw [moves_eq]
      exact ⟨planned, planned_eq, (conveys.whole nonempty moved same).1, conveys.last_eq nonempty same⟩
    case counted => exact counted

/-- Three bytes are downloaded in chunks of two. -/
theorem run_reports_three_bytes :
    ∃ trace, Run (program "g" (download ⟨4, 2, 2⟩)) trace (.ok 3) ∧
      Trace.events trace =
        [.started "g" 3, .progress "g" 2 3, .progress "g" 3 3, .complete "g" 3] ∧
      Reports (download ⟨4, 2, 2⟩) "g" trace (.ok 3) := by
  let whole := (program "g" (download ⟨4, 2, 2⟩)).run
  have run := Dialogue.run_transcript World.answer whole Download.smallWorld
  have refuses := World.refusesEmptyRanges_transcript whole Download.smallWorld rfl
  have outcome_eq : (whole.play World.answer Download.smallWorld).1 = .ok 3 := by decide +kernel
  have events_eq : Trace.events (whole.transcript World.answer Download.smallWorld) =
      [.started "g" 3, .progress "g" 2 3, .progress "g" 3 3, .complete "g" 3] := by decide +kernel
  rw [outcome_eq] at run
  exact ⟨_, run, events_eq, run_reports run fun _ => .inr refuses⟩

end Transfer

end GraphOffload

import GraphOffload.Proofs.Storage.Promises
import GraphOffload.Proofs.Transfer.Tiling
import GraphOffload.Transfer.Upload
import Mathlib.Data.List.Perm.Basic

/-!
# The sending of parts

The parts of an upload are sent in their order while earlier ones are still under way, and whichever
of them comes first is waited for. The invariant of the loop ties three accounts of the same upload
together: what the program takes to be under way, what the store has of the open upload, and what was
read of the parts so far.

## Main definitions

* `GraphOffload.Trace.reads` : the parts that were read in a trace, with their bytes.
* `GraphOffload.Upload.Flight.OnWay` : the program and the store agree on the parts under way.
* `GraphOffload.Upload.Flight.reach` : how many bytes were acknowledged or are under way.

## Main results

* `GraphOffload.Upload.run_acknowledge` : one acknowledgement keeps the agreement.
* `GraphOffload.Upload.run_sendParts` : when all parts are sent, the store has the bytes of all
  reads, in the order of the parts, and every part is acknowledged.
-/

namespace GraphOffload

/-! ### Reads -/

/-- The part that an exchange brings, with its bytes. -/
def Exchange.read? : Exchange → Option (Part × Bytes)
  | ⟨.endRead _ part, .ok data⟩ => some (part, data.val)
  | _ => none

/-- A part is brought with as many bytes as it asks for. -/
theorem Exchange.length_of_read? {exchange : Exchange} {brought : Part × Bytes}
    (h : exchange.read? = some brought) : brought.2.length = brought.1.length.toNat := by
  obtain ⟨call, reply⟩ := exchange
  cases call with
  | endRead key part =>
    rcases reply with failure | data
    · exact nomatch h
    · cases h
      exact data.property
  | _ => exact nomatch h

namespace Trace

/-- The parts that were read in a trace, with their bytes. -/
def reads (trace : Trace) : List (Part × Bytes) := trace.filterMap Exchange.read?

/-- Without calls nothing is read. -/
@[simp] theorem reads_nil : reads [] = [] := rfl

/-- What is read in two traces is what is read in each. -/
@[simp] theorem reads_append (front back : Trace) : reads (front ++ back) = reads front ++ reads back :=
  List.filterMap_append

/-- An exchange that brings nothing does not matter. -/
theorem reads_cons_of_none {exchange : Exchange} {rest : Trace} (h : exchange.read? = none) :
    reads (exchange :: rest) = reads rest :=
  List.filterMap_cons_none h

/-- What was read in a trace came with an exchange. -/
theorem exists_endRead_of_mem_reads {trace : Trace} {brought : Part × Bytes} (mem : brought ∈ trace.reads) :
    ∃ key, ∃ data : brought.1.Data, ⟨.endRead key brought.1, .ok data⟩ ∈ trace ∧
      data.val = brought.2 := by
  obtain ⟨⟨call, reply⟩, came, read⟩ := List.mem_filterMap.mp mem
  cases call with
  | endRead key part =>
    cases reply with
    | error failure => cases read
    | ok data =>
      obtain rfl := Option.some.inj read
      exact ⟨key, data, came, rfl⟩
  | _ => cases read

/-- The bytes that were read in a trace. -/
def produced (trace : Trace) : Bytes := trace.reads.flatMap Prod.snd

end Trace

namespace Upload

open StoreState

/-! ### Lengths -/

/-- How many bytes some parts have. -/
def lengthOf : List Part → Nat
  | [] => 0
  | part :: parts => part.length.toNat + lengthOf parts

/-- No parts have no bytes. -/
@[simp] theorem lengthOf_nil : lengthOf [] = 0 := rfl

/-- The bytes of a part and of others are added. -/
@[simp] theorem lengthOf_cons (part : Part) (parts : List Part) :
    lengthOf (part :: parts) = part.length.toNat + lengthOf parts := rfl

/-- The bytes of two lists of parts are added. -/
@[simp] theorem lengthOf_append (front back : List Part) :
    lengthOf (front ++ back) = lengthOf front + lengthOf back := by
  induction front with
  | nil => simp
  | cons part parts ih => simp [ih, Nat.add_assoc]

/-- The order of parts does not matter for their bytes. -/
theorem lengthOf_perm {parts parts' : List Part} (h : parts.Perm parts') :
    lengthOf parts = lengthOf parts' := by
  induction h with
  | nil => rfl
  | cons part _ ih => rw [lengthOf_cons, lengthOf_cons, ih]
  | swap part other parts =>
    simp only [lengthOf_cons]
    omega
  | trans _ _ ih ih' => exact ih.trans ih'

/-- The bytes that were read are as many as the parts ask for. -/
theorem length_produced (trace : Trace) :
    trace.produced.length = lengthOf (trace.reads.map Prod.fst) := by
  induction trace with
  | nil => rfl
  | cons exchange rest ih =>
    cases read : exchange.read? with
    | none => rw [Trace.produced, Trace.reads_cons_of_none read, ← Trace.produced, ih]
    | some brought =>
      have reads_eq : Trace.reads (exchange :: rest) = brought :: Trace.reads rest :=
        List.filterMap_cons_some read
      rw [Trace.produced, reads_eq, List.map_cons, lengthOf_cons, ← ih, ← exchange.length_of_read? read]
      simp [Trace.produced]

/-- Parts that follow one another have as many bytes as lie between their ends. -/
theorem lengthOf_of_tiles {start finish : Nat} {parts : List Part}
    (tiles : Tiles start finish (parts.map Part.extent)) : start + lengthOf parts = finish := by
  induction parts generalizing start with
  | nil => exact tiles
  | cons part parts ih =>
    obtain ⟨_, _, tiles⟩ := tiles
    have := ih tiles
    simp only [Part.extent] at this
    rw [lengthOf_cons]
    omega

/-- The bytes of the parts of a plan are as many as are asked for. -/
theorem lengthOf_plan (total partSize : UInt64) : lengthOf (Part.plan total partSize) = total.toNat := by
  have ends := lengthOf_of_tiles (Part.tiles_plan total partSize)
  rwa [Nat.zero_add] at ends

/-! ### Parts under way -/

/-- How many bytes were acknowledged or are under way. -/
def Flight.reach (flight : Flight) : Nat := flight.sent + lengthOf flight.underway

/-- The store has an open upload with the given bytes, no part of which was lost, and agrees with the
program on the parts under way. -/
def Flight.OnWay (flight : Flight) (path : ObjectPath) (data : Bytes) (state : StoreState) : Prop :=
  ∃ underway, state.upload = some ⟨path, data, underway, false⟩ ∧ underway.Perm flight.underway

variable {key : String} {total atOnce : Nat} {flight : Flight} {trace : Trace} {path : ObjectPath}
  {data : Bytes} {s s' : StoreState}

/-- One more part under way. -/
theorem Flight.OnWay.begin (onWay : flight.OnWay path data s) (part : Part) (bytes : Bytes) :
    ({ flight with underway := flight.underway ++ [part] } : Flight).OnWay path (data ++ bytes)
      { s with upload := s.upload.map (·.begin part bytes) } := by
  obtain ⟨underway, pending, agree⟩ := onWay
  exact ⟨underway ++ [part], by simp [pending, PendingUpload.begin], agree.append_right _⟩

/-- One part fewer under way. -/
theorem Flight.OnWay.acknowledge (onWay : flight.OnWay path data s) {index : Nat}
    (inside : index < flight.underway.length) (sent : Nat) :
    (⟨flight.underway.eraseIdx index, sent⟩ : Flight).OnWay path data
      { s with upload := s.upload.map (·.acknowledge flight.underway[index]) } := by
  obtain ⟨underway, pending, agree⟩ := onWay
  refine ⟨underway.erase flight.underway[index], by simp [pending, PendingUpload.acknowledge], ?_⟩
  exact (agree.erase _).trans (List.erase_getElem inside)

/-! ### Acknowledgements -/

/-- One acknowledgement keeps the agreement and the number of bytes that were acknowledged or are
under way; one part fewer is under way.

**Proof sketch.** By whether a part is under way. If one is, the world chooses which of them is waited
for; it is acknowledged, and counts as sent instead of as under way. -/
theorem run_acknowledge {next : Flight}
    (run : Attempting.Run (acknowledge key total flight) trace (.ok next))
    (follows : Follows s trace s') (onWay : flight.OnWay path data s) :
    next.OnWay path data s' ∧ next.reach = flight.reach ∧
      next.underway.length = flight.underway.length - 1 ∧ trace.reads = [] := by
  obtain ⟨underway, sent⟩ := flight
  cases underway with
  | nil =>
    obtain ⟨rfl, same⟩ := Attempting.run_pure_iff.mp run
    obtain rfl := Except.ok.inj same
    obtain rfl : s' = s := follows
    exact ⟨onWay, rfl, rfl, rfl⟩
  | cons oldest others =>
    obtain ⟨index, rest, rfl, waiting⟩ := Attempting.run_attempt_ok_bind_iff.mp run
    obtain ⟨reply, rest, rfl, ended⟩ := Attempting.run_attempt_bind_iff.mp waiting
    cases reply with
    | error error => exact nomatch ended.2
    | ok acknowledged =>
      obtain ⟨rest, rfl, told⟩ := Attempting.run_notify_bind_iff.mp ended
      obtain ⟨rfl, same⟩ := Attempting.run_pure_iff.mp told
      obtain rfl := Except.ok.inj same
      rw [follows_cons_of_none rfl, follows_cons_of_some rfl] at follows
      obtain ⟨middle, effect, follows⟩ := follows
      obtain rfl : middle = _ := effect
      rw [follows_cons_of_none rfl] at follows
      obtain rfl : s' = _ := follows
      refine ⟨onWay.acknowledge index.isLt _, ?_, List.length_eraseIdx_of_lt index.isLt, rfl⟩
      have whole := lengthOf_perm (List.getElem_cons_eraseIdx_perm (l := oldest :: others) index.isLt)
      simp only [lengthOf_cons, Flight.reach, Fin.getElem_fin] at whole ⊢
      omega

/-- When as many parts were waited for as are under way, none is. -/
theorem run_acknowledgeAll {count sent : Nat}
    (run : Attempting.Run (acknowledgeAll key total count flight) trace (.ok sent))
    (follows : Follows s trace s') (onWay : flight.OnWay path data s)
    (all : count = flight.underway.length) :
    s'.upload = some ⟨path, data, [], false⟩ ∧ sent = flight.reach ∧ trace.reads = [] := by
  induction count generalizing flight trace s with
  | zero =>
    obtain ⟨rfl, same⟩ := Attempting.run_pure_iff.mp run
    obtain rfl := Except.ok.inj same
    obtain rfl : s' = s := follows
    obtain ⟨underway, pending, agree⟩ := onWay
    have none_left : flight.underway = [] := List.length_eq_zero_iff.mp all.symm
    rw [none_left] at agree
    rw [agree.eq_nil] at pending
    exact ⟨pending, by simp [Flight.reach, none_left], rfl⟩
  | succ count ih =>
    rcases Attempting.run_bind_iff.mp run with ⟨failure, same, _⟩ |
      ⟨next, front, back, rfl, first, later⟩
    · exact nomatch same
    · obtain ⟨middle, follows, after⟩ := follows_append_iff.mp follows
      obtain ⟨onWay, reach_eq, fewer, unread⟩ := run_acknowledge first follows onWay
      obtain ⟨pending, sent_eq, unread'⟩ := ih later after onWay (by omega)
      exact ⟨pending, by omega, by simp [unread, unread']⟩

/-! ### The loop -/

/-- Beginning to read parts brings nothing and is nothing for the store. -/
theorem run_beginReads {parts : List Part} {value : Unit}
    (run : Attempting.Run (beginReads key parts) trace (.ok value)) (follows : Follows s trace s') :
    s' = s ∧ trace.reads = [] := by
  induction parts generalizing trace s with
  | nil =>
    obtain ⟨rfl, _⟩ := Attempting.run_pure_iff.mp run
    exact ⟨follows, rfl⟩
  | cons part parts ih =>
    obtain ⟨_, rest, rfl, others⟩ := Attempting.run_attempt_ok_bind_iff.mp run
    rw [follows_cons_of_none rfl] at follows
    obtain ⟨same, unread⟩ := ih others follows
    exact ⟨same, unread⟩

/-- Where too many parts are under way, one is waited for; either way the agreement is kept. -/
theorem run_mayAcknowledge {goOn : Flight → Attempting Nat} {sent : Nat}
    (run : Attempting.Run
      (if atOnce ≤ flight.underway.length then acknowledge key total flight >>= goOn
        else pure flight >>= goOn) trace (.ok sent))
    (follows : Follows s trace s') (onWay : flight.OnWay path data s) :
    ∃ next front back middle, trace = front ++ back ∧ Attempting.Run (goOn next) back (.ok sent) ∧
      Follows middle back s' ∧ next.OnWay path data middle ∧ next.reach = flight.reach ∧
      front.reads = [] := by
  split at run
  · rcases Attempting.run_bind_iff.mp run with ⟨failure, same, _⟩ |
      ⟨next, front, back, rfl, first, later⟩
    · exact nomatch same
    · obtain ⟨middle, follows, after⟩ := follows_append_iff.mp follows
      obtain ⟨onWay, kept, _, unread⟩ := run_acknowledge first follows onWay
      exact ⟨next, front, back, middle, rfl, later, after, onWay, kept, unread⟩
  · exact ⟨flight, [], trace, s, rfl, run, follows, onWay, rfl, rfl⟩

/-- **When all parts are sent, the store has the bytes of all reads in the order of the parts, and
every part is acknowledged.** The parts were read in their order, and the number of bytes is that of
all parts.

**Proof sketch.** Induction on the parts that are left. A part that was read is one more under way
with its bytes at the end of the store's; the acknowledgement that may follow keeps the agreement.
At the end the parts under way are waited for. -/
theorem run_sendParts {parts ahead : List Part} {sent : Nat}
    (run : Attempting.Run (sendParts key total atOnce parts ahead flight) trace (.ok sent))
    (follows : Follows s trace s') (onWay : flight.OnWay path data s) :
    s'.upload = some ⟨path, data ++ trace.produced, [], false⟩ ∧
      sent = flight.reach + lengthOf parts ∧ trace.reads.map Prod.fst = parts := by
  induction parts generalizing ahead flight trace s data with
  | nil =>
    obtain ⟨pending, sent_eq, unread⟩ := run_acknowledgeAll run follows onWay rfl
    exact ⟨by simpa [Trace.produced, unread] using pending, by simpa using sent_eq, by simp [unread]⟩
  | cons part parts ih =>
    obtain ⟨reply, rest, rfl, sending⟩ := Attempting.run_attempt_bind_iff.mp run
    cases reply with
    | error failure => exact nomatch sending.2
    | ok bytes =>
      obtain ⟨_, rest, rfl, begun⟩ := Attempting.run_attempt_ok_bind_iff.mp sending
      rw [follows_cons_of_none rfl, follows_cons_of_some rfl] at follows
      obtain ⟨_, effect, follows⟩ := follows
      cases effect
      obtain ⟨next, front, back, middle, rfl, reading, follows, onWay, kept, unread⟩ :=
        run_mayAcknowledge begun follows (onWay.begin part bytes.val)
      rcases Attempting.run_bind_iff.mp reading with ⟨failure, same, _⟩ |
        ⟨_, ahead', back, rfl, begins, loop⟩
      · exact nomatch same
      obtain ⟨middle', follows, after⟩ := follows_append_iff.mp follows
      obtain ⟨rfl, unread'⟩ := run_beginReads begins follows
      obtain ⟨pending, sent_eq, parts_eq⟩ := ih loop after onWay
      have reads_eq : Trace.reads (⟨.endRead key part, .ok bytes⟩ ::
          ⟨.beginPart part bytes.val, ()⟩ :: (front ++ (ahead' ++ back))) =
            (part, bytes.val) :: Trace.reads back := by
        change (part, bytes.val) :: Trace.reads (front ++ (ahead' ++ back)) = _
        simp [unread, unread']
      refine ⟨?_, ?_, ?_⟩
      · simpa [Trace.produced, reads_eq] using pending
      · rw [lengthOf_cons, sent_eq, kept]
        simp only [Flight.reach, lengthOf_append, lengthOf_cons, lengthOf_nil]
        omega
      · rw [reads_eq, List.map_cons, parts_eq]

end Upload

end GraphOffload

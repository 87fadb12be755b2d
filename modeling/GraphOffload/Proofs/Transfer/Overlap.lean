import GraphOffload.Proofs.Build.Staging

/-!
# Parts that overlap

While an upload in parts lasts, some parts are being read ahead of the one that is sent next, and some
that were sent are not acknowledged yet. The reads are awaited in the order of the parts, the
acknowledgements in any order, and of neither kind are there ever more than the upload was told. When
the upload is completed every part that was sent has been acknowledged.

## Main definitions

* `GraphOffload.Trace.sent`, `GraphOffload.Trace.acknowledged`, `GraphOffload.Trace.awaited` : the parts
  that were sent in a trace, acknowledged, and waited for.
* `GraphOffload.Overlap` : the parts that are being read, and those that are being sent.
* `GraphOffload.Overlap.Step` : what an exchange does to them.
* `GraphOffload.Overlap.Advances` : the way from one point of an upload to a later one.
* `GraphOffload.Trace.CompletesOnce` : an upload is completed once, when all parts are acknowledged.

## Main results

* `GraphOffload.Overlap.perm_of_follows` : what was sent is acknowledged or under way.
* `GraphOffload.Upload.advances_sendParts` : the reads are awaited in the order of the parts, and what
  was read is sent in the same order.
* `GraphOffload.Upload.advances_vectors` : so it is in a whole upload, which is completed once.
-/

namespace GraphOffload

open Attempting

/-! ### Parts that were sent -/

namespace Exchange

/-- The part whose sending begins with an exchange, with its bytes. -/
def sent? : Exchange → Option (Part × Bytes)
  | ⟨.beginPart part data, _⟩ => some (part, data)
  | _ => none

/-- The part that is acknowledged in an exchange. -/
def acknowledged? : Exchange → Option Part
  | ⟨.endPart part, .ok ()⟩ => some part
  | _ => none

/-- The part that is waited for in an exchange until it is read. -/
def awaited? : Exchange → Option Part
  | ⟨.endRead _ part, _⟩ => some part
  | _ => none

end Exchange

namespace Trace

/-- The parts that were sent in a trace, with their bytes. -/
def sent (trace : Trace) : List (Part × Bytes) := trace.filterMap Exchange.sent?

/-- The parts that were acknowledged in a trace. -/
def acknowledged (trace : Trace) : List Part := trace.filterMap Exchange.acknowledged?

/-- The parts that were waited for in a trace until they were read. -/
def awaited (trace : Trace) : List Part := trace.filterMap Exchange.awaited?

/-- What is sent in two traces is what is sent in each. -/
@[simp] theorem sent_append (front back : Trace) : sent (front ++ back) = sent front ++ sent back :=
  List.filterMap_append

/-- What is acknowledged in two traces is what is acknowledged in each. -/
@[simp] theorem acknowledged_append (front back : Trace) :
    acknowledged (front ++ back) = acknowledged front ++ acknowledged back :=
  List.filterMap_append

/-- What is waited for in two traces is what is waited for in each. -/
@[simp] theorem awaited_append (front back : Trace) :
    awaited (front ++ back) = awaited front ++ awaited back :=
  List.filterMap_append

/-! ### Completion -/

/-- An upload is completed once, and all parts that it sends are acknowledged then. -/
def CompletesOnce (trace : Trace) : Prop :=
  ∃ front back : Trace, trace = front ++ ⟨.completeUpload, .ok ()⟩ :: back ∧
    (∀ exchange ∈ front ++ back, exchange.1 ≠ .completeUpload) ∧
    (trace.sent.map Prod.fst).Perm front.acknowledged

namespace CompletesOnce

variable {trace : Trace} {exchange : Exchange}

/-- What comes before and is not of the upload does not matter. -/
theorem cons (h : CompletesOnce trace) (other : exchange.1 ≠ .completeUpload)
    (unsent : exchange.sent? = none) (unacknowledged : exchange.acknowledged? = none) :
    CompletesOnce (exchange :: trace) := by
  obtain ⟨front, back, rfl, once, whole⟩ := h
  refine ⟨exchange :: front, back, rfl, List.forall_mem_cons.mpr ⟨other, once⟩, ?_⟩
  rw [acknowledged, List.filterMap_cons_none unacknowledged, sent, List.filterMap_cons_none unsent]
  exact whole

/-- Nor does what comes after. -/
theorem concat (h : CompletesOnce trace) (exchange : Exchange) (other : exchange.1 ≠ .completeUpload)
    (unsent : exchange.sent? = none) : CompletesOnce (trace ++ [exchange]) := by
  obtain ⟨front, back, rfl, once, whole⟩ := h
  refine ⟨front, back ++ [exchange], by simp, ?_, ?_⟩
  · rw [← List.append_assoc]
    exact List.forall_mem_append.mpr ⟨once, List.forall_mem_singleton.mpr other⟩
  · have none_sent : sent [exchange] = [] := List.filterMap_cons_none unsent
    rw [sent_append, none_sent, List.append_nil]
    exact whole

end CompletesOnce

end Trace

/-! ### Parts under way -/

/-- The parts of an upload that are being read, and those that are being sent. -/
structure Overlap where
  reading : List Part := []
  sending : List Part := []

namespace Overlap

variable {limit : Nat} {first middle last : Overlap} {trace front back : Trace}

/-- What an exchange does to the parts under way. Reads are awaited in the order in which they began,
acknowledgements in any order, and of both no more than the limit are under way. -/
def Step (limit : Nat) : Exchange → Overlap → Overlap → Prop
  | ⟨.beginRead _ part, _⟩, before, after =>
    after = { before with reading := before.reading ++ [part] } ∧ after.reading.length ≤ limit
  | ⟨.endRead _ part, _⟩, before, after => before = { after with reading := part :: after.reading }
  | ⟨.beginPart part _, _⟩, before, after =>
    after = { before with sending := before.sending ++ [part] } ∧ after.sending.length ≤ limit
  | ⟨.endPart part, .ok ()⟩, before, after =>
    before.sending.Perm (part :: after.sending) ∧ after.reading = before.reading
  | _, before, after => after = before

/-- What a trace does to the parts under way. -/
abbrev Follows (limit : Nat) (before : Overlap) (trace : Trace) (after : Overlap) : Prop :=
  Trace.Through (Step limit) before trace after

/-- One step sends a part, has one acknowledged, or does neither. -/
theorem Step.perm {exchange : Exchange} (step : Step limit exchange first last) :
    (first.sending ++ (Trace.sent [exchange]).map Prod.fst).Perm
      (Trace.acknowledged [exchange] ++ last.sending) := by
  obtain ⟨call, reply⟩ := exchange
  cases call with
  | beginPart part data =>
    obtain ⟨rfl, _⟩ := step
    exact .refl _
  | endPart part =>
    rcases reply with error | ⟨⟩
    · obtain rfl : last = first := step
      exact .of_eq (List.append_nil _)
    · obtain ⟨perm, _⟩ := step
      exact (List.Perm.of_eq (List.append_nil _)).trans perm
  | beginRead key part =>
    obtain ⟨rfl, _⟩ := step
    exact .of_eq (List.append_nil _)
  | endRead key part =>
    obtain rfl : first = _ := step
    exact .of_eq (List.append_nil _)
  | _ =>
    obtain rfl : last = first := step
    exact .of_eq (List.append_nil _)

/-- **What was sent is acknowledged or under way.**

**Proof sketch.** Induction on the trace: what a step sends or has acknowledged is so in the whole
trace. -/
theorem perm_of_follows (follows : Follows limit first trace last) :
    (first.sending ++ trace.sent.map Prod.fst).Perm (trace.acknowledged ++ last.sending) := by
  induction trace generalizing first with
  | nil =>
    obtain rfl : last = first := follows
    exact .of_eq (List.append_nil _)
  | cons exchange rest ih =>
    obtain ⟨middle, step, later⟩ := follows
    have sent_eq : Trace.sent (exchange :: rest) = Trace.sent [exchange] ++ Trace.sent rest :=
      Trace.sent_append [exchange] rest
    have acknowledged_eq : Trace.acknowledged (exchange :: rest) =
        Trace.acknowledged [exchange] ++ Trace.acknowledged rest :=
      Trace.acknowledged_append [exchange] rest
    have earlier := step.perm.append_right ((Trace.sent rest).map Prod.fst)
    rw [sent_eq, acknowledged_eq, List.map_append, ← List.append_assoc]
    refine earlier.trans ?_
    rw [List.append_assoc, List.append_assoc]
    exact (ih later).append_left _

/-- No step makes more parts be sent than may be. -/
theorem Step.length_sending_le {exchange : Exchange} (step : Step limit exchange first last)
    (few : first.sending.length ≤ limit) : last.sending.length ≤ limit := by
  obtain ⟨call, reply⟩ := exchange
  cases call with
  | beginPart part data => exact step.2
  | endPart part =>
    rcases reply with error | ⟨⟩
    · obtain rfl : last = first := step
      exact few
    · have length_eq := step.1.length_eq
      rw [List.length_cons] at length_eq
      omega
  | beginRead key part =>
    obtain ⟨rfl, _⟩ := step
    exact few
  | endRead key part =>
    obtain rfl : first = _ := step
    exact few
  | _ =>
    obtain rfl : last = first := step
    exact few

/-- Nor do many. -/
theorem length_sending_le (follows : Follows limit first trace last)
    (few : first.sending.length ≤ limit) : last.sending.length ≤ limit := by
  induction trace generalizing first with
  | nil =>
    obtain rfl : last = first := follows
    exact few
  | cons exchange rest ih =>
    obtain ⟨middle, step, later⟩ := follows
    exact ih later (step.length_sending_le few)

/-- **Of an upload from its start, at any time, all parts that were sent are acknowledged but for as
many as may be under way.** -/
theorem exists_unacknowledged (follows : Follows limit {} (front ++ back) last) :
    ∃ unacknowledged : List Part, (front.sent.map Prod.fst).Perm (front.acknowledged ++ unacknowledged) ∧
      unacknowledged.length ≤ limit := by
  obtain ⟨middle, earlier, _⟩ := Trace.through_append_iff.mp follows
  exact ⟨middle.sending, perm_of_follows earlier, length_sending_le earlier (Nat.zero_le limit)⟩

/-! ### Advances -/

/-- From one point of an upload to a later one some parts were waited for until they were read, and
those that could be read were sent at once with what was read. -/
structure Advances (limit : Nat) (first : Overlap) (trace : Trace) (last : Overlap)
    (awaited : List Part) : Prop where
  follows : Follows limit first trace last
  sent_eq : trace.sent = trace.reads
  awaited_eq : trace.awaited = awaited

namespace Advances

variable {awaited awaited' : List Part}

/-- An upload advances by nothing where nothing happens. -/
theorem refl : Advances limit first [] first [] := ⟨rfl, rfl, rfl⟩

/-- **Advances add up**: the parts waited for in two of them are waited for in both together. -/
theorem trans (h : Advances limit first front middle awaited)
    (h' : Advances limit middle back last awaited') :
    Advances limit first (front ++ back) last (awaited ++ awaited') where
  follows := Trace.through_append_iff.mpr ⟨middle, h.follows, h'.follows⟩
  sent_eq := by rw [Trace.sent_append, Trace.reads_append, h.sent_eq, h'.sent_eq]
  awaited_eq := by rw [Trace.awaited_append, h.awaited_eq, h'.awaited_eq]

/-- An exchange that brings and sends nothing is one step. -/
theorem cons {exchange : Exchange} (step : Step limit exchange first middle)
    (unsent : exchange.sent? = none) (unread : exchange.read? = none)
    (unawaited : exchange.awaited? = none) (h : Advances limit middle trace last awaited) :
    Advances limit first (exchange :: trace) last awaited where
  follows := ⟨middle, step, h.follows⟩
  sent_eq := by
    rw [Trace.reads_cons_of_none unread, ← h.sent_eq]
    exact List.filterMap_cons_none unsent
  awaited_eq := (List.filterMap_cons_none unawaited).trans h.awaited_eq

end Advances

end Overlap

namespace Upload

open Overlap

variable {key : String} {total atOnce limit : Nat} {flight : Flight} {trace : Trace}
  {reading sending : List Part}

/-! ### Acknowledgements -/

/-- One part is acknowledged, whichever it is.

**Proof sketch.** By whether a part is under way. If one is, the world chooses which of them is waited
for; it is taken out of those being sent if the store has it. -/
theorem advances_acknowledge {outcome : Except Failure Flight}
    (run : Run (acknowledge key total flight) trace outcome) (reading : List Part) :
    ∃ left, Advances limit ⟨reading, flight.underway⟩ trace ⟨reading, left⟩ [] ∧
      ∀ next, outcome = .ok next →
        left = next.underway ∧ next.underway.length = flight.underway.length - 1 := by
  obtain ⟨underway, sent⟩ := flight
  cases underway with
  | nil =>
    obtain ⟨rfl, rfl⟩ := run_pure_iff.mp run
    refine ⟨[], .refl, ?_⟩
    rintro _ ⟨⟩
    exact ⟨rfl, rfl⟩
  | cons oldest others =>
    obtain ⟨index, rest, rfl, waiting⟩ := run_attempt_ok_bind_iff.mp run
    obtain ⟨reply, rest, rfl, ended⟩ := run_attempt_bind_iff.mp waiting
    cases reply with
    | error error =>
      obtain ⟨rfl, rfl⟩ := ended
      refine ⟨oldest :: others, ?_, fun _ same => by cases same⟩
      exact .cons rfl rfl rfl rfl (.cons rfl rfl rfl rfl .refl)
    | ok acknowledged =>
      obtain ⟨rest, rfl, told⟩ := run_notify_bind_iff.mp ended
      obtain ⟨rfl, rfl⟩ := run_pure_iff.mp told
      have step : Step limit ⟨.endPart (oldest :: others)[index], .ok acknowledged⟩
          ⟨reading, oldest :: others⟩ ⟨reading, (oldest :: others).eraseIdx index⟩ :=
        ⟨(List.getElem_cons_eraseIdx_perm index.isLt).symm, rfl⟩
      refine ⟨(oldest :: others).eraseIdx index, ?_, ?_⟩
      · exact .cons rfl rfl rfl rfl (.cons step rfl rfl rfl (.cons rfl rfl rfl rfl .refl))
      · rintro _ ⟨⟩
        exact ⟨rfl, List.length_eraseIdx_of_lt index.isLt⟩

/-- As many parts are acknowledged as are waited for. -/
theorem advances_acknowledgeAll {count : Nat} {outcome : Except Failure Nat}
    (run : Run (acknowledgeAll key total count flight) trace outcome) (reading : List Part) :
    ∃ left, Advances limit ⟨reading, flight.underway⟩ trace ⟨reading, left⟩ [] ∧
      ∀ sent, outcome = .ok sent → left.length = flight.underway.length - count := by
  induction count generalizing flight trace with
  | zero =>
    obtain ⟨rfl, rfl⟩ := run_pure_iff.mp run
    exact ⟨flight.underway, .refl, fun _ _ => rfl⟩
  | succ count ih =>
    rcases run_bind_iff.mp run with ⟨failure, rfl, first⟩ | ⟨next, front, back, rfl, first, later⟩
    · obtain ⟨left, advances, _⟩ := advances_acknowledge first reading
      exact ⟨left, advances, fun _ same => by cases same⟩
    · obtain ⟨left, advances, ended⟩ := advances_acknowledge first reading
      obtain ⟨rfl, fewer⟩ := ended next rfl
      obtain ⟨left, advances', ended'⟩ := ih later
      refine ⟨left, advances.trans advances', fun sent same => ?_⟩
      rw [ended' sent same, fewer]
      omega

/-! ### Reads -/

/-- Reads begin in the order of the parts, and never fail to begin. -/
theorem advances_beginReads {parts : List Part} {outcome : Except Failure Unit}
    (run : Run (beginReads key parts) trace outcome) (sending : List Part)
    (room : reading.length + parts.length ≤ limit) :
    Advances limit ⟨reading, sending⟩ trace ⟨reading ++ parts, sending⟩ [] ∧ outcome = .ok () := by
  induction parts generalizing reading trace with
  | nil =>
    obtain ⟨rfl, rfl⟩ := run_pure_iff.mp run
    rw [List.append_nil]
    exact ⟨.refl, rfl⟩
  | cons part parts ih =>
    obtain ⟨_, rest, rfl, others⟩ := run_attempt_ok_bind_iff.mp run
    have length_eq : (reading ++ [part]).length = reading.length + 1 := List.length_append
    have room' : (reading ++ [part]).length + parts.length ≤ limit := by
      rw [List.length_cons] at room
      omega
    obtain ⟨advances, began⟩ := ih others room'
    rw [List.append_assoc] at advances
    exact ⟨.cons ⟨rfl, Nat.le_trans (Nat.le_add_right _ _) room'⟩ rfl rfl rfl advances, began⟩

/-! ### The loop -/

/-- Where too many parts are under way, one is waited for; then there is room for another one. -/
theorem advances_mayAcknowledge {goOn : Flight → Attempting Nat} {outcome : Except Failure Nat}
    (run : Run
      (if atOnce ≤ flight.underway.length then acknowledge key total flight >>= goOn
        else pure flight >>= goOn) trace outcome)
    (positive : 0 < atOnce) (few : flight.underway.length ≤ atOnce) (reading : List Part) :
    (∃ failure left, outcome = .error failure ∧
      Advances limit ⟨reading, flight.underway⟩ trace ⟨reading, left⟩ []) ∨
    ∃ next front back, trace = front ++ back ∧ Run (goOn next) back outcome ∧
      Advances limit ⟨reading, flight.underway⟩ front ⟨reading, next.underway⟩ [] ∧
      next.underway.length < atOnce := by
  split at run
  · rcases run_bind_iff.mp run with ⟨failure, rfl, first⟩ | ⟨next, front, back, rfl, first, later⟩
    · obtain ⟨left, advances, _⟩ := advances_acknowledge first reading
      exact .inl ⟨failure, left, rfl, advances⟩
    · obtain ⟨left, advances, ended⟩ := advances_acknowledge first reading
      obtain ⟨rfl, fewer⟩ := ended next rfl
      exact .inr ⟨next, front, back, rfl, later, advances, by omega⟩
  · rename_i room
    exact .inr ⟨flight, [], trace, rfl, run, .refl, Nat.not_le.mp room⟩

/-- The part that was read first is sent, if there is room for it. -/
theorem advances_beginPart {part : Part} (data : part.Data) (room : sending.length < limit) :
    Advances limit ⟨part :: reading, sending⟩
      [⟨.endRead key part, .ok data⟩, ⟨.beginPart part data.val, ()⟩]
      ⟨reading, sending ++ [part]⟩ [part] where
  follows := by
    refine ⟨⟨reading, sending⟩, rfl, _, ⟨rfl, ?_⟩, rfl⟩
    rw [List.length_append]
    exact room
  sent_eq := rfl
  awaited_eq := rfl

/-- **The reads are awaited in the order of the parts, and what was read is sent in the same order.** An
upload that comes to the end of its parts has none under way.

**Proof sketch.** Induction on the parts that are left. Those that are being read are always the first
of them: when one of these was read another one begins to be. After a part began to be sent there are at
most as many under way as may be, and one less before the next one. -/
theorem advances_sendParts {parts : List Part} {outcome : Except Failure Nat}
    (run : Run (sendParts key total atOnce parts (parts.drop atOnce) flight) trace outcome)
    (room : flight.underway.length < atOnce) :
    ∃ last awaited, Advances atOnce ⟨parts.take atOnce, flight.underway⟩ trace last awaited ∧
      awaited <+: parts ∧ ∀ sent, outcome = .ok sent → last = {} := by
  induction parts generalizing flight trace with
  | nil =>
    rw [List.drop_nil] at run
    obtain ⟨left, advances, ended⟩ := advances_acknowledgeAll run []
    refine ⟨⟨[], left⟩, [], ?_, List.nil_prefix, fun sent same => ?_⟩
    · rw [List.take_nil]
      exact advances
    · have none_left := ended sent same
      rw [Nat.sub_self, List.length_eq_zero_iff] at none_left
      rw [none_left]
  | cons part parts ih =>
    -- there is room for a part, so some number may be under way; what is read ahead is one less
    obtain ⟨ahead, rfl⟩ : ∃ ahead, atOnce = ahead + 1 := ⟨atOnce - 1, by omega⟩
    rw [List.take_succ_cons]
    rw [List.drop_succ_cons] at run
    obtain ⟨reply, rest, rfl, waiting⟩ := run_attempt_bind_iff.mp run
    cases reply with
    | error failure =>
      obtain ⟨rfl, rfl⟩ := waiting
      have step : Step (ahead + 1) ⟨.endRead key part, .error failure⟩
          ⟨part :: parts.take ahead, flight.underway⟩ ⟨parts.take ahead, flight.underway⟩ := rfl
      refine ⟨_, [part], ⟨⟨_, step, rfl⟩, rfl, rfl⟩, List.prefix_append [part] parts, ?_⟩
      exact fun _ same => by cases same
    | ok data =>
      obtain ⟨_, rest, rfl, begun⟩ := run_attempt_ok_bind_iff.mp waiting
      have sends : Advances (ahead + 1) ⟨part :: parts.take ahead, flight.underway⟩
          [⟨.endRead key part, .ok data⟩, ⟨.beginPart part data.val, ()⟩]
          ⟨parts.take ahead, flight.underway ++ [part]⟩ [part] := advances_beginPart data room
      have few : (flight.underway ++ [part]).length ≤ ahead + 1 := by
        rw [List.length_append]
        exact room
      rcases advances_mayAcknowledge begun (Nat.succ_pos ahead) few (parts.take ahead) with
        ⟨failure, left, rfl, advances⟩ | ⟨next, front, back, rfl, reads, advances, room'⟩
      · refine ⟨_, _, sends.trans advances, ?_, fun _ same => by cases same⟩
        exact List.prefix_append [part] parts
      -- the part that was waited for made room for the next one to be read
      have reads_room : (parts.take ahead).length + ((parts.drop ahead).take 1).length ≤ ahead + 1 := by
        rw [List.length_take, List.length_take]
        omega
      rcases run_bind_iff.mp reads with ⟨failure, rfl, begins⟩ | ⟨_, middle, back, rfl, begins, loop⟩
      · cases (advances_beginReads begins next.underway reads_room).2
      · obtain ⟨begins', _⟩ := advances_beginReads begins next.underway reads_room
        rw [← List.take_add] at begins'
        rw [List.drop_drop] at loop
        obtain ⟨last, awaited, advances', in_order, ended⟩ := ih loop room'
        refine ⟨last, part :: awaited, ?_, List.prefix_cons_inj part |>.mpr in_order, ended⟩
        exact sends.trans (advances.trans (begins'.trans advances'))

/-! ### Whole uploads -/

/-- From its opening on an upload waits for its parts in their order; if it comes to its end, no part is
under way any more, and it is completed once.

**Proof sketch.** The parts that begin to be read at first, the loop over all parts and the completion
are one way after the other. What was sent on it is acknowledged, as none of it is under way at its end.
-/
theorem advances_sendAndComplete {options : TransferOptions} {total : UInt64}
    {outcome : Except Failure Nat} (run : Run (sendAndComplete options key total) trace outcome) :
    (∃ last awaited, Advances options.atOnce {} trace last awaited ∧
      awaited <+: Part.plan total options.partSize ∧ ∀ sent, outcome = .ok sent → last = {}) ∧
    ∀ sent, outcome = .ok sent → trace.CompletesOnce := by
  have positive : 0 < options.atOnce := by
    rw [TransferOptions.atOnce]
    omega
  have window : ([] : List Part).length + ((Part.plan total options.partSize).take options.atOnce).length ≤
      options.atOnce := by
    rw [List.length_take, List.length_nil]
    omega
  rcases run_bind_iff.mp run with ⟨failure, rfl, begins⟩ | ⟨_, begins, rest, rfl, begin_run, run'⟩
  · cases (advances_beginReads begins [] window).2
  obtain ⟨begun, _⟩ := advances_beginReads begin_run [] window
  rcases run_bind_iff.mp run' with ⟨failure, rfl, sending⟩ | ⟨sent, sends, rest, rfl, sending, run''⟩
  · obtain ⟨last, awaited, advances, in_order, _⟩ := advances_sendParts sending positive
    exact ⟨⟨last, _, begun.trans advances, in_order, fun _ same => by cases same⟩,
      fun _ same => by cases same⟩
  obtain ⟨last, awaited, advances, in_order, ended⟩ := advances_sendParts sending positive
  obtain rfl := ended sent rfl
  have through := begun.trans advances
  -- nothing is under way any more, so that what was sent is what was acknowledged
  have perm := perm_of_follows through.follows
  rw [List.nil_append, List.append_nil] at perm
  obtain ⟨reply, rest, rfl, completing⟩ := run_attempt_bind_iff.mp run''
  have completes : Advances options.atOnce {} [⟨.completeUpload, reply⟩] {} [] :=
    .cons rfl rfl rfl rfl .refl
  have whole := through.trans completes
  rw [List.append_nil, List.append_assoc] at whole
  cases reply with
  | error error =>
    obtain ⟨rfl, rfl⟩ := completing
    exact ⟨⟨_, _, whole, in_order, fun _ _ => rfl⟩, fun _ same => by cases same⟩
  | ok done =>
    obtain ⟨rfl, rfl⟩ := run_pure_iff.mp completing
    refine ⟨⟨_, _, whole, in_order, fun _ _ => rfl⟩, fun _ _ => ⟨begins ++ sends, [], by simp, ?_, ?_⟩⟩
    · have within : ∀ exchange ∈ begins ++ sends, Sends key (Part.plan total options.partSize) exchange.1 :=
        List.forall_mem_append.mpr
          ⟨begin_run.forall_within (within_beginReads (List.take_subset _ _)),
            sending.forall_within
              (within_sendParts _ _ _ _ (List.Subset.refl _) (List.drop_subset _ _))⟩
      rw [List.append_nil]
      intro exchange mem completed
      have sends := within exchange mem
      rw [completed] at sends
      exact sends
    · have none_sent : Trace.sent [⟨.completeUpload, .ok done⟩] = [] := rfl
      rw [← List.append_assoc, Trace.sent_append, none_sent, List.append_nil]
      exact perm

/-- The same for an upload in parts from its opening to its end.

**Proof sketch.** By the reply to the opening, and then by how the sending ends (`run_orAbort_iff`): an
abort reads and sends nothing. -/
theorem advances_inParts {options : TransferOptions} {total : UInt64} {path : ObjectPath}
    {outcome : Except Failure Nat} (parsed : ObjectPath.parse key = .ok path)
    (run : Run (inParts options key total) trace outcome) :
    (∃ last awaited, Advances options.atOnce {} trace last awaited ∧
      awaited <+: Part.plan total options.partSize ∧ ∀ sent, outcome = .ok sent → last = {}) ∧
    ∀ sent, outcome = .ok sent → trace.CompletesOnce := by
  rw [inParts, BlobStore.pathOf, parsed] at run
  obtain ⟨reply, rest, rfl, later⟩ := run_attempt_bind_iff.mp (run_ofExcept_bind_iff.mp run)
  cases reply with
  | error error =>
    obtain ⟨rfl, rfl⟩ := later
    exact ⟨⟨_, [], .cons rfl rfl rfl rfl .refl, List.nil_prefix, fun _ _ => rfl⟩,
      fun _ same => by cases same⟩
  | ok done =>
    rcases run_orAbort_iff.mp later with ⟨sent, rfl, run'⟩ | ⟨failure, front, reply, rfl, rfl, run'⟩
    · obtain ⟨⟨last, awaited, advances, in_order, ended⟩, once⟩ := advances_sendAndComplete run'
      refine ⟨⟨last, awaited, .cons rfl rfl rfl rfl advances, in_order, ended⟩, fun sent same => ?_⟩
      exact (once sent same).cons (by simp) rfl rfl
    · obtain ⟨⟨last, awaited, advances, in_order, _⟩, _⟩ := advances_sendAndComplete run'
      have aborts : Advances options.atOnce last [⟨.abortUpload, reply⟩] last [] :=
        .cons rfl rfl rfl rfl .refl
      refine ⟨⟨last, _, .cons rfl rfl rfl rfl (advances.trans aborts), ?_, fun _ same => by cases same⟩,
        fun _ same => by cases same⟩
      rw [List.append_nil]
      exact in_order

/-- **An upload waits for its parts in their order, sends what it has read of them in the same order, and
of both never has more under way than it was told.** If it succeeds, none is under way at its end, and it
was completed once, when every part that it sent was acknowledged.

**Proof sketch.** By how the upload ends (`run_whole`). The question, the telling and the counting
around the parts are nothing to them. -/
theorem advances_vectors {area : StagingArea} {total : UInt64} {path : ObjectPath}
    {outcome : Except Failure Nat} (parsed : ObjectPath.parse key = .ok path)
    (in_parts : area.multipart ∧ 0 < total) (run : Run (vectors area key total) trace outcome) :
    (∃ last awaited, Advances area.options.atOnce {} trace last awaited ∧
      awaited <+: Part.plan total area.options.partSize ∧ ∀ sent, outcome = .ok sent → last = {}) ∧
    ∀ sent, outcome = .ok sent → trace.CompletesOnce := by
  rw [vectors, if_pos in_parts] at run
  rcases run_whole parsed run with ⟨reply, failure, rfl, _, rfl⟩ |
    ⟨reply, sending, _, ⟨failure, rfl, run', rfl⟩ | ⟨sent, rfl, run', rfl⟩⟩
  · exact ⟨⟨_, [], .cons rfl rfl rfl rfl .refl, List.nil_prefix, fun _ _ => rfl⟩,
      fun _ same => by cases same⟩
  · obtain ⟨⟨last, awaited, advances, in_order, _⟩, _⟩ := advances_inParts parsed run'
    refine ⟨⟨last, awaited, ?_, in_order, fun _ same => by cases same⟩, fun _ same => by cases same⟩
    exact .cons rfl rfl rfl rfl (.cons rfl rfl rfl rfl advances)
  · obtain ⟨⟨last, awaited, advances, in_order, ended⟩, once⟩ := advances_inParts parsed run'
    have tells : Advances area.options.atOnce last
        [⟨.count (.moved .upload sent), ()⟩, ⟨.notify (.complete key sent), ()⟩] last [] :=
      .cons rfl rfl rfl rfl (.cons rfl rfl rfl rfl .refl)
    refine ⟨⟨last, _, .cons rfl rfl rfl rfl (.cons rfl rfl rfl rfl (advances.trans tells)), ?_,
      fun _ _ => ended sent rfl⟩, ?_⟩
    · rw [List.append_nil]
      exact in_order
    · rintro _ ⟨⟩
      have counted := (once sent rfl).concat ⟨.count (.moved .upload sent), ()⟩ (by simp) rfl
      have told := counted.concat ⟨.notify (.complete key sent), ()⟩ (by simp) rfl
      rw [List.append_assoc] at told
      exact (told.cons (by simp) rfl rfl).cons (by simp) rfl rfl

end Upload

end GraphOffload

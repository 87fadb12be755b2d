import GraphOffload.Proofs.Transfer.Overlap
import Mathlib.Data.List.Count

/-!
# Reads that nobody waits for

A part that has begun to be read is read in the background: the read opens a cursor of its own, has it
give one document after the other, and ends. Nothing stops it. If the upload fails before it comes to
wait for the part, the read goes on all the same, while the upload is aborted and even later, and what it
brings is discarded. What is known of such reads is that each of them had begun before, and that there
are no more of them than parts may be read at once.

## Main definitions

* `GraphOffload.Trace.unawaited` : the parts that have begun to be read and were not waited for.
* `GraphOffload.Trace.ReadStep` : what an exchange does to them.
* `GraphOffload.ReadingEvent` : what happens during a run, the work of its readers included.
* `GraphOffload.Readers.Follows` : what happens is what the readers in the background allow.

## Main results

* `GraphOffload.Upload.exists_through_vectors` : an upload never leaves more parts unawaited than it was
  told, and none if it succeeds.
* `GraphOffload.Readers.mem_unawaited` : a reader works on a part that has begun to be read and was not
  waited for.
* `GraphOffload.Readers.exists_follows` : whatever a run waits for, there is a time for its readers to do
  their work.
-/

namespace GraphOffload

open Attempting

/-! ### Parts that were not waited for -/

/-- The part that begins to be read in an exchange. -/
def Exchange.begun? : Exchange → Option Part
  | ⟨.beginRead _ part, _⟩ => some part
  | _ => none

/-- The call begins to read a part, or waits for one. -/
def Call.IsPartRead : Call → Prop
  | .beginRead .. | .endRead .. => True
  | _ => False

namespace Trace

variable {trace front back : Trace} {before after left : List Part} {limit : Nat}

/-- The parts that began to be read in a trace. -/
def begun (trace : Trace) : List Part := trace.filterMap Exchange.begun?

/-- The parts that have begun to be read in a trace and were not waited for. -/
def unawaited (trace : Trace) : List Part := trace.begun.diff trace.awaited

/-- No part begins to be read in a trace, and none is waited for. -/
def Unread (trace : Trace) : Prop := ∀ exchange ∈ trace, ¬ exchange.1.IsPartRead

/-- What begins to be read in two traces is what begins in each. -/
@[simp] theorem begun_append (front back : Trace) : begun (front ++ back) = begun front ++ begun back :=
  List.filterMap_append

/-- Idle calls read nothing. -/
theorem Idle.unread (idle : trace.Idle) : trace.Unread := by
  intro exchange mem
  obtain ⟨call, reply⟩ := exchange
  have quiet := idle _ mem
  cases call <;> first | exact id | exact quiet.elim

/-! ### What an exchange does to them -/

/-- What an exchange does to the parts that were begun and not waited for, of which there are to be no
more than the limit: one more begins to be read, or one of them is waited for. -/
def ReadStep (limit : Nat) : Exchange → List Part → List Part → Prop
  | ⟨.beginRead _ part, _⟩, before, after => after = before ++ [part] ∧ after.length ≤ limit
  | ⟨.endRead _ part, _⟩, before, after => before.Perm (part :: after)
  | _, before, after => after = before

/-- A step adds the part that begins, and takes away the one that was waited for. -/
theorem ReadStep.perm {exchange : Exchange} (step : ReadStep limit exchange before after) :
    (before ++ begun [exchange]).Perm (awaited [exchange] ++ after) := by
  obtain ⟨call, reply⟩ := exchange
  cases call with
  | beginRead key part =>
    obtain ⟨rfl, _⟩ := step
    exact .refl _
  | endRead key part => exact (List.Perm.of_eq (List.append_nil _)).trans step
  | _ =>
    obtain rfl : after = before := step
    exact .of_eq (List.append_nil _)

/-- **What began is what was waited for and what is left.**

**Proof sketch.** Induction on the trace: what one step adds and takes away is added and taken away in
the whole trace. -/
theorem perm_of_through (through : Through (ReadStep limit) before trace after) :
    (before ++ trace.begun).Perm (trace.awaited ++ after) := by
  induction trace generalizing before with
  | nil =>
    obtain rfl : after = before := through
    exact .of_eq (List.append_nil _)
  | cons exchange rest ih =>
    obtain ⟨middle, step, later⟩ := through
    have begun_eq : begun (exchange :: rest) = begun [exchange] ++ begun rest := begun_append [exchange] rest
    have awaited_eq : awaited (exchange :: rest) = awaited [exchange] ++ awaited rest :=
      awaited_append [exchange] rest
    rw [begun_eq, awaited_eq, ← List.append_assoc]
    refine (step.perm.append_right _).trans ?_
    rw [List.append_assoc, List.append_assoc]
    exact (ih later).append_left _

/-- Where all that began is accounted for, the parts that were not waited for are those that are left. -/
theorem unawaited_perm (perm : trace.begun.Perm (trace.awaited ++ left)) : trace.unawaited.Perm left := by
  refine List.perm_iff_count.mpr fun part => ?_
  have counted := perm.count_eq part
  rw [List.count_append] at counted
  rw [unawaited, List.count_diff]
  omega

/-- No step leaves more parts unawaited than may be. -/
theorem ReadStep.length_le {exchange : Exchange} (step : ReadStep limit exchange before after)
    (few : before.length ≤ limit) : after.length ≤ limit := by
  obtain ⟨call, reply⟩ := exchange
  cases call with
  | beginRead key part => exact step.2
  | endRead key part =>
    have length_eq := step.length_eq
    rw [List.length_cons] at length_eq
    omega
  | _ =>
    obtain rfl : after = before := step
    exact few

/-- Nor do many. -/
theorem length_le_of_through (through : Through (ReadStep limit) before trace after)
    (few : before.length ≤ limit) : after.length ≤ limit := by
  induction trace generalizing before with
  | nil =>
    obtain rfl : after = before := through
    exact few
  | cons exchange rest ih =>
    obtain ⟨middle, step, later⟩ := through
    exact ih later (step.length_le few)

/-- **From its start on, at any time, a trace has no more parts unawaited than may be.** -/
theorem length_unawaited_le (through : Through (ReadStep limit) [] (front ++ back) after) :
    front.unawaited.length ≤ limit := by
  obtain ⟨middle, earlier, _⟩ := through_append_iff.mp through
  rw [(unawaited_perm (perm_of_through earlier)).length_eq]
  exact length_le_of_through earlier (Nat.zero_le limit)

/-- Where nothing is read, the same parts stay unawaited. -/
theorem through_of_unread (unread : trace.Unread) (left : List Part) :
    Through (ReadStep limit) left trace left := by
  induction trace with
  | nil => rfl
  | cons exchange rest ih =>
    obtain ⟨first, others⟩ := List.forall_mem_cons.mp unread
    refine ⟨left, ?_, ih others⟩
    obtain ⟨call, reply⟩ := exchange
    cases call with
    | beginRead | endRead => exact absurd trivial first
    | _ => rfl

/-- Where nothing is read, the parts that were not waited for are the same at the end. -/
theorem unawaited_append_of_unread (unread : back.Unread) : unawaited (front ++ back) = unawaited front := by
  have none_begun : begun back = [] := List.filterMap_eq_nil_iff.mpr fun exchange mem => by
    obtain ⟨call, reply⟩ := exchange
    have apart := unread _ mem
    cases call <;> first | rfl | exact absurd trivial apart
  have none_awaited : awaited back = [] := List.filterMap_eq_nil_iff.mpr fun exchange mem => by
    obtain ⟨call, reply⟩ := exchange
    have apart := unread _ mem
    cases call <;> first | rfl | exact absurd trivial apart
  rw [unawaited, begun_append, awaited_append, none_begun, none_awaited, List.append_nil,
    List.append_nil]
  rfl

end Trace

/-- The parts that are being read while parts overlap are those that were not waited for. -/
theorem Overlap.Step.readStep {limit : Nat} {exchange : Exchange} {first last : Overlap}
    (step : Overlap.Step limit exchange first last) :
    Trace.ReadStep limit exchange first.reading last.reading := by
  obtain ⟨call, reply⟩ := exchange
  cases call with
  | beginRead key part =>
    obtain ⟨rfl, few⟩ := step
    exact ⟨rfl, few⟩
  | endRead key part =>
    obtain rfl : first = _ := step
    exact .refl _
  | beginPart part data =>
    obtain ⟨rfl, _⟩ := step
    rfl
  | endPart part =>
    rcases reply with error | ⟨⟩
    · exact congrArg Overlap.reading step
    · exact step.2
  | _ => exact congrArg Overlap.reading step

/-- So it is along a trace. -/
theorem Overlap.Follows.through {limit : Nat} {trace : Trace} {first last : Overlap}
    (follows : Overlap.Follows limit first trace last) :
    Trace.Through (Trace.ReadStep limit) first.reading trace last.reading := by
  induction trace generalizing first with
  | nil => exact congrArg Overlap.reading follows
  | cons exchange rest ih =>
    obtain ⟨middle, step, later⟩ := follows
    exact ⟨middle.reading, step.readStep, ih later⟩

namespace Upload

open Trace

variable {area : StagingArea} {key : String} {total : UInt64} {limit : Nat} {trace : Trace}
  {outcome : Except Failure Nat}

/-- An upload in one piece waits for the one part that it reads. -/
theorem through_inOnePiece {path : ObjectPath} (parsed : ObjectPath.parse key = .ok path)
    (positive : 0 < limit) (run : Run (inOnePiece key total) trace outcome) :
    Through (ReadStep limit) [] trace [] := by
  obtain ⟨_, rest, rfl, reading⟩ := run_attempt_ok_bind_iff.mp run
  obtain ⟨reply, rest, rfl, later⟩ := run_attempt_bind_iff.mp reading
  refine ⟨[⟨0, 0, total⟩], ⟨rfl, positive⟩, [], .refl _, ?_⟩
  cases reply with
  | error failure =>
    obtain ⟨rfl, _⟩ := later
    rfl
  | ok data =>
    obtain ⟨_, rfl, _⟩ := run_putWhole later parsed
    exact through_of_unread (List.forall_mem_singleton.mpr id) []

/-- **An upload never leaves more parts unawaited than it was told, and none if it succeeds.** -/
theorem exists_through_vectors (run : Run (vectors area key total) trace outcome) :
    ∃ left, Through (ReadStep area.options.atOnce) [] trace left ∧ ∀ sent, outcome = .ok sent → left = [] := by
  cases parsed : ObjectPath.parse key with
  | error error =>
    obtain ⟨rfl, _⟩ := run_whole_of_error parsed run
    exact ⟨[], rfl, fun _ _ => rfl⟩
  | ok path =>
    by_cases in_parts : area.multipart ∧ 0 < total
    · obtain ⟨⟨last, _, advances, _, ended⟩, _⟩ := advances_vectors parsed in_parts run
      exact ⟨last.reading, advances.follows.through,
        fun sent same => congrArg Overlap.reading (ended sent same)⟩
    · rw [vectors, if_neg in_parts] at run
      have positive : 0 < area.options.atOnce := by
        rw [TransferOptions.atOnce]
        omega
      refine ⟨[], ?_, fun _ _ => rfl⟩
      rcases run_whole parsed run with ⟨_, _, rfl, _⟩ | ⟨_, sending, _, ⟨_, rfl, run', _⟩ | ⟨_, rfl, run', _⟩⟩
      · exact ⟨[], rfl, rfl⟩
      · exact ⟨[], rfl, [], rfl, through_inOnePiece parsed positive run'⟩
      · refine ⟨[], rfl, [], rfl, through_append_iff.mpr ⟨[], through_inOnePiece parsed positive run', ?_⟩⟩
        exact ⟨[], rfl, [], rfl, rfl⟩

end Upload

/-! ### Readers -/

/-- What happens during a run: a call is made and answered, or a reader in the background goes on. -/
inductive ReadingEvent
  | call (exchange : Exchange)
  /-- The reader of a part opens its cursor. -/
  | opens (part : Part)
  /-- It has the cursor give a document or a vector. -/
  | advances (part : Part)
  /-- It has read its part, or has failed to. -/
  | ends (part : Part)

namespace ReadingEvent

/-- The call of an event, if it is one. -/
def call? : ReadingEvent → Option Exchange
  | call exchange => some exchange
  | _ => none

/-- The part whose reader goes on in an event. -/
def part? : ReadingEvent → Option Part
  | call _ => none
  | opens part | advances part | ends part => some part

/-- The calls of a run, without the work of its readers. -/
def callsIn (history : List ReadingEvent) : Trace := history.filterMap call?

/-- The calls of two histories are those of each. -/
@[simp] theorem callsIn_append (front back : List ReadingEvent) :
    callsIn (front ++ back) = callsIn front ++ callsIn back :=
  List.filterMap_append

/-- A call is one of the calls. -/
@[simp] theorem callsIn_cons_call (exchange : Exchange) (rest : List ReadingEvent) :
    callsIn (call exchange :: rest) = exchange :: callsIn rest := rfl

/-- An event in the background makes no call. -/
theorem exists_part_of_silent {event : ReadingEvent} (silent : event.call? = none) :
    ∃ part, event.part? = some part := by
  cases event with
  | call exchange => cases silent
  | opens part | advances part | ends part => exact ⟨part, rfl⟩

/-- An event that is not in the background is a call. -/
theorem exists_call {event : ReadingEvent} (idle : event.part? = none) :
    ∃ exchange, event = .call exchange := by
  cases event with
  | call exchange => exact ⟨exchange, rfl⟩
  | opens part | advances part | ends part => cases idle

end ReadingEvent

/-- The readers in the background: of parts that have only begun to be read, of parts with an open
cursor, and of parts that are done and were not waited for yet. What a read brings is not looked at here,
only when its cursor is opened and moved; `GraphOffload.ReadPool` has what it brings, and when it ends. -/
structure Readers where
  begun : List Part := []
  reading : List Part := []
  ended : List Part := []

namespace Readers

open ReadingEvent

variable {readers next before after : Readers} {event : ReadingEvent}
  {history front back : List ReadingEvent}

/-- All parts that were not waited for yet. -/
def all (readers : Readers) : List Part := readers.begun ++ readers.reading ++ readers.ended

/-- What an event does to the readers. No call but the waiting for a part takes one away: not the abort
of an upload, and not its failure. -/
inductive Step : ReadingEvent → Readers → Readers → Prop
  | begins {readers : Readers} {key : String} {part : Part} :
    Step (.call ⟨.beginRead key part, ()⟩) readers { readers with begun := readers.begun ++ [part] }
  | opens {readers : Readers} {part : Part} {others : List Part}
      (waits : readers.begun.Perm (part :: others)) :
    Step (.opens part) readers { readers with begun := others, reading := part :: readers.reading }
  | advances {readers : Readers} {part : Part} (reads : part ∈ readers.reading) :
    Step (.advances part) readers readers
  /-- A reader of elements that cannot be streamed ends before it opens a cursor. -/
  | refused {readers : Readers} {part : Part} {others : List Part}
      (waits : readers.begun.Perm (part :: others)) :
    Step (.ends part) readers { readers with begun := others, ended := part :: readers.ended }
  | ends {readers : Readers} {part : Part} {others : List Part}
      (reads : readers.reading.Perm (part :: others)) :
    Step (.ends part) readers { readers with reading := others, ended := part :: readers.ended }
  | gives {readers : Readers} {key : String} {part : Part} {reply : Except Failure part.Data}
      {others : List Part} (has : readers.ended.Perm (part :: others)) :
    Step (.call ⟨.endRead key part, reply⟩) readers { readers with ended := others }
  | idles {readers : Readers} {exchange : Exchange} (apart : ¬ exchange.1.IsPartRead) :
    Step (.call exchange) readers readers

/-- The events of a history, one after the other, take the readers to where they are then. -/
def Follows (before : Readers) : List ReadingEvent → Readers → Prop
  | [], after => after = before
  | event :: rest, after => ∃ middle, Step event before middle ∧ Follows middle rest after

/-- Readers follow two histories in a row exactly if they follow the one and then the other. -/
theorem follows_append_iff :
    Follows before (front ++ back) after ↔ ∃ middle, Follows before front middle ∧ Follows middle back after := by
  induction front generalizing before with
  | nil => simp [Follows]
  | cons event rest ih =>
    constructor
    · rintro ⟨first, step, later⟩
      obtain ⟨middle, earlier, later⟩ := ih.mp later
      exact ⟨middle, ⟨first, step, earlier⟩, later⟩
    · rintro ⟨middle, ⟨first, step, earlier⟩, later⟩
      exact ⟨first, step, ih.mpr ⟨middle, earlier, later⟩⟩

/-- A part is counted once for each of the three places it may be in. -/
theorem count_all (readers : Readers) (part : Part) :
    readers.all.count part =
      readers.begun.count part + readers.reading.count part + readers.ended.count part := by
  rw [all, List.count_append, List.count_append]

/-- What goes on in the background neither begins to read a part nor waits for one. -/
theorem begun_awaited_of_silent (silent : event.call? = none) :
    (callsIn [event]).begun = [] ∧ (callsIn [event]).awaited = [] := by
  have none_made : callsIn [event] = [] := List.filterMap_cons_none silent
  rw [none_made]
  exact ⟨rfl, rfl⟩

/-- A call that neither begins to read a part nor waits for one leaves all parts as they are. -/
theorem begun_awaited_of_apart {exchange : Exchange} (apart : ¬ exchange.1.IsPartRead) :
    (callsIn [.call exchange]).begun = [] ∧ (callsIn [.call exchange]).awaited = [] := by
  obtain ⟨call, reply⟩ := exchange
  cases call with
  | beginRead | endRead => exact absurd trivial apart
  | _ => exact ⟨rfl, rfl⟩

/-- Only a call that begins to read a part, or that waits for one, changes which parts were not waited
for.

**Proof sketch.** A part is counted before and after: a reader that goes on takes it from one place to
another one, and the calls add it or take it away. -/
theorem Step.perm (step : Step event before after) :
    (before.all ++ (callsIn [event]).begun).Perm ((callsIn [event]).awaited ++ after.all) := by
  refine List.perm_iff_count.mpr fun part => ?_
  rw [List.count_append, List.count_append, count_all, count_all]
  cases step with
  | @begins _ key first =>
    have begun_eq : (callsIn [.call ⟨.beginRead key first, ()⟩]).begun = [first] := rfl
    have awaited_eq : (callsIn [.call ⟨.beginRead key first, ()⟩]).awaited = [] := rfl
    rw [begun_eq, awaited_eq, List.count_append, List.count_nil]
    dsimp only
    omega
  | opens waits | refused waits =>
    have counted := waits.count_eq part
    rw [(begun_awaited_of_silent rfl).1, (begun_awaited_of_silent rfl).2, List.count_nil]
    rw [List.count_cons] at counted ⊢
    dsimp only
    omega
  | advances reads =>
    rw [(begun_awaited_of_silent rfl).1, (begun_awaited_of_silent rfl).2, List.count_nil]
    omega
  | ends reads =>
    have counted := reads.count_eq part
    rw [(begun_awaited_of_silent rfl).1, (begun_awaited_of_silent rfl).2, List.count_nil]
    rw [List.count_cons] at counted ⊢
    dsimp only
    omega
  | @gives _ key given reply others has =>
    have counted := has.count_eq part
    have begun_eq : (callsIn [.call ⟨.endRead key given, reply⟩]).begun = [] := rfl
    have awaited_eq : (callsIn [.call ⟨.endRead key given, reply⟩]).awaited = [given] := rfl
    rw [begun_eq, awaited_eq, List.count_nil]
    rw [List.count_cons] at counted ⊢
    dsimp only
    rw [List.count_nil]
    omega
  | idles apart =>
    rw [(begun_awaited_of_apart apart).1, (begun_awaited_of_apart apart).2, List.count_nil]
    omega

/-- **What began is what was waited for and what the readers have.**

**Proof sketch.** Induction on the history, as for the calls alone: what one event adds and takes away is
added and taken away in the whole history. -/
theorem perm_of_follows (follows : Follows before history after) :
    (before.all ++ (callsIn history).begun).Perm ((callsIn history).awaited ++ after.all) := by
  induction history generalizing before with
  | nil =>
    obtain rfl : after = before := follows
    exact .of_eq (List.append_nil _)
  | cons event rest ih =>
    obtain ⟨middle, step, later⟩ := follows
    have calls_eq : callsIn (event :: rest) = callsIn [event] ++ callsIn rest := callsIn_append [event] rest
    rw [calls_eq, Trace.begun_append, Trace.awaited_append, ← List.append_assoc]
    refine (step.perm.append_right _).trans ?_
    rw [List.append_assoc, List.append_assoc]
    exact (ih later).append_left _

/-- A reader that goes on has a part that was not waited for. -/
theorem Step.mem_all (step : Step event before after) {part : Part} (works : event.part? = some part) :
    part ∈ before.all := by
  have of_begun {others : List Part} (waits : before.begun.Perm (part :: others)) : part ∈ before.all := by
    simp [all, waits.mem_iff]
  have of_reading (reads : part ∈ before.reading) : part ∈ before.all := by
    simp [all, reads]
  cases step with
  | opens waits | refused waits =>
    obtain rfl := Option.some.inj works
    exact of_begun waits
  | advances reads =>
    obtain rfl := Option.some.inj works
    exact of_reading reads
  | ends reads =>
    obtain rfl := Option.some.inj works
    exact of_reading (reads.mem_iff.mpr List.mem_cons_self)
  | begins | gives | idles => cases works

/-- **A reader works on a part that has begun to be read and was not waited for.** -/
theorem mem_unawaited (follows : Follows {} (front ++ event :: back) after) {part : Part}
    (works : event.part? = some part) : part ∈ (callsIn front).unawaited := by
  obtain ⟨middle, earlier, next, step, _⟩ := follows_append_iff.mp follows
  have unawaited := Trace.unawaited_perm (perm_of_follows earlier)
  exact unawaited.mem_iff.mpr (step.mem_all works)

/-- So it is at any time from some point of a history on. -/
theorem mem_unawaited_of_mem (follows : Follows {} (front ++ back) after) (mem : event ∈ back)
    {part : Part} (works : event.part? = some part) :
    ∃ between rest, back = between ++ event :: rest ∧
      part ∈ (callsIn (front ++ between)).unawaited := by
  obtain ⟨between, rest, rfl⟩ := List.append_of_mem mem
  rw [← List.append_assoc] at follows
  exact ⟨between, rest, rfl, mem_unawaited follows works⟩

/-- **What goes on after the last call, if it reads no part, is the reading of parts** that had begun to be
read before it and were not waited for. -/
theorem exists_unawaited_of_last {exchange : Exchange}
    (follows : Follows {} (front ++ .call exchange :: back) after) (quiet : ¬ exchange.1.IsPartRead)
    (last : callsIn back = []) :
    ∀ event ∈ back, ∃ part ∈ (callsIn front).unawaited, event.part? = some part := by
  intro event mem
  obtain ⟨part, works⟩ := exists_part_of_silent (List.filterMap_eq_nil_iff.mp last event mem)
  rw [List.append_cons] at follows
  obtain ⟨between, rest, rfl, came⟩ := mem_unawaited_of_mem follows mem works
  rw [callsIn_append] at last
  rw [callsIn_append, (List.append_eq_nil_iff.mp last).1, List.append_nil, callsIn_append] at came
  have unread : Trace.Unread (callsIn [.call exchange]) := List.forall_mem_singleton.mpr quiet
  rw [Trace.unawaited_append_of_unread unread] at came
  exact ⟨part, came, works⟩

/-- **Whatever a run waits for, there is a time for its readers to do their work**; the readers of the
parts that it does not wait for may not have begun with it at the end.

**Proof sketch.** Induction on the trace. The reader of a part opens its cursor and ends just before the
part is waited for. -/
theorem exists_follows {limit : Nat} {left left' : List Part} {trace : Trace}
    (through : Trace.Through (Trace.ReadStep limit) left trace left') :
    ∃ history, callsIn history = trace ∧ Follows ⟨left, [], []⟩ history ⟨left', [], []⟩ := by
  induction trace generalizing left with
  | nil =>
    obtain rfl : left' = left := through
    exact ⟨[], rfl, rfl⟩
  | cons exchange rest ih =>
    obtain ⟨middle, step, later⟩ := through
    obtain ⟨history, rfl, follows⟩ := ih later
    obtain ⟨call, reply⟩ := exchange
    cases call with
    | beginRead key part =>
      obtain ⟨rfl, _⟩ := step
      exact ⟨.call _ :: history, rfl, _, .begins, follows⟩
    | endRead key part =>
      refine ⟨.opens part :: .ends part :: .call _ :: history, rfl, ?_⟩
      exact ⟨_, .opens step, _, .ends (.refl _), _, .gives (.refl _), follows⟩
    | _ =>
      obtain rfl : middle = left := step
      exact ⟨.call _ :: history, rfl, _, .idles id, follows⟩

/-- Calls that read no part are made while the readers stay as they are. -/
theorem follows_calls_of_unread {trace : Trace} (unread : trace.Unread) (readers : Readers) :
    Follows readers (trace.map .call) readers := by
  induction trace with
  | nil => rfl
  | cons exchange rest ih =>
    obtain ⟨first, others⟩ := List.forall_mem_cons.mp unread
    exact ⟨readers, .idles first, ih others⟩

/-- **A part that a run does not wait for may be read after everything else.** -/
theorem exists_late {limit : Nat} {left : List Part} {trace later : Trace} {part : Part}
    (through : Trace.Through (Trace.ReadStep limit) [] trace left) (unawaited : part ∈ trace.unawaited)
    (unread : later.Unread) :
    ∃ history readers, callsIn history = trace ∧
      Follows {} (history ++ (later.map .call ++ [.opens part, .advances part, .ends part])) readers := by
  obtain ⟨history, rfl, follows⟩ := exists_follows through
  have mem : part ∈ left :=
    (Trace.unawaited_perm (Trace.perm_of_through through)).mem_iff.mp unawaited
  refine ⟨history, ⟨left.erase part, [], [part]⟩, rfl, ?_⟩
  refine follows_append_iff.mpr ⟨_, follows, follows_append_iff.mpr
    ⟨_, follows_calls_of_unread unread _, ?_⟩⟩
  exact ⟨_, .opens (List.perm_cons_erase mem), _, .advances List.mem_cons_self, _, .ends (.refl _), rfl⟩

end Readers

end GraphOffload

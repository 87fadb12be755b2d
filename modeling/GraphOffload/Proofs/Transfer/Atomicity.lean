import GraphOffload.Proofs.Storage.Simulation
import GraphOffload.Proofs.Transfer.Calls

/-!
# Uploads are all or nothing

An upload can fail before anything was sent, while parts are under way, or when it is to be
completed. Whichever it is, the store shows afterwards what it showed before, and an upload in parts
that was opened is aborted once. If the upload succeeds the object is there with all its bytes, and
nothing else has changed.

## Main definitions

* `GraphOffload.Upload.failureOf?` : the failure that an exchange of an upload means.
* `GraphOffload.Upload.BrokenOff` : an upload stopped with its first failing exchange, and was
  aborted if it had been opened.
* `GraphOffload.UploadSource.AllOrNothing` : what an upload may come to.

## Main results

* `GraphOffload.UploadSource.run_upload` : in a store that keeps its promises, every upload is all or
  nothing.

## Design

What stops an upload is read off its trace: the programs between opening and completion stop with the
first failing exchange, which `Attempting.StopsAt` carries through their loops.
-/

namespace GraphOffload

open Attempting StoreState

namespace Upload

variable {key : String} {path : ObjectPath} {trace : Trace} {before after : StoreState}

/-! ### What shows -/

/-- Nothing that is sent shows before it is completed. -/
theorem Sends.not_writes {plan : List Part} {exchange : Exchange} (h : Sends key plan exchange.1)
    {event : StoreEvent} (means : exchange.storeEvent? = some event) : ¬ event.Writes := by
  obtain ⟨call, reply⟩ := exchange
  cases call with
  | beginRead key part => exact nomatch means
  | endRead key part => exact nomatch means
  | beginPart part data =>
    cases means
    exact id
  | endPart part =>
    cases reply <;> cases means <;> exact id
  | choose others => exact nomatch means
  | notify event => exact nomatch means
  | _ => exact h.elim

/-- While parts are read and sent the objects stay as they are. -/
theorem objects_eq_of_within {α : Type} {plan : List Part} {program : Attempting α}
    {outcome : Except Failure α}
    (within : Within (Sends key plan) program) (run : Run program trace outcome)
    (follows : Follows before trace after) : after.objects = before.objects :=
  follows.objects_eq fun exchange mem _ means => (run.forall_within within exchange mem).not_writes means

/-! ### What stops an upload -/

/-- The failure that an exchange of an upload means, if it means one. -/
def failureOf? (key : String) : Exchange → Option Failure
  | ⟨.head _, .ok _⟩ => some (.alreadyExists key)
  | ⟨.head _, .error (.notFound _ _)⟩ => none
  | ⟨.head _, .error error⟩ => some (.transfer key (BlobStore.failureOf key error))
  | ⟨.put _ _, .error error⟩ | ⟨.openUpload _, .error error⟩ | ⟨.endPart _, .error error⟩
  | ⟨.completeUpload, .error error⟩ => some (.transferStore key error)
  | ⟨.endRead _ _, .error failure⟩ => some failure
  | _ => none

/-- A part that the store does not take stops an upload with its error. -/
theorem stopsAt_acknowledge (total : Nat) (flight : Flight) :
    StopsAt (failureOf? key) (acknowledge key total flight) := by
  obtain ⟨underway, sent⟩ := flight
  cases underway with
  | nil => exact stopsAt_pure _
  | cons oldest others =>
    refine (stopsAt_attempt_ok fun _ => rfl).bind fun index => ?_
    refine (stopsAt_attempt ?_ ?_).bind fun _ => ?_
    · rintro (error | ⟨⟩) _ means
      · exact nomatch means
      · rfl
    · rintro (error | ⟨⟩) _ means
      · exact congrArg some (Except.error.inj means)
      · exact nomatch means
    · exact (stopsAt_attempt_ok fun _ => rfl).bind fun _ => stopsAt_pure _

/-- So does any of the parts that are left at the end. -/
theorem stopsAt_acknowledgeAll (total count : Nat) (flight : Flight) :
    StopsAt (failureOf? key) (acknowledgeAll key total count flight) := by
  induction count generalizing flight with
  | zero => exact stopsAt_pure _
  | succ count ih => exact (stopsAt_acknowledge total flight).bind ih

/-- Beginning to read parts stops no upload. -/
theorem stopsAt_beginReads (parts : List Part) : StopsAt (failureOf? key) (beginReads key parts) := by
  induction parts with
  | nil => exact stopsAt_pure _
  | cons part parts ih => exact (stopsAt_attempt_ok fun _ => rfl).bind fun _ => ih

/-- A part that cannot be read stops an upload with the reason. -/
theorem stopsAt_endRead (part : Part) :
    StopsAt (failureOf? key) ((Call.endRead key part).attempt id) := by
  refine stopsAt_attempt ?_ ?_
  · rintro (failure | data) _ means
    · exact nomatch means
    · rfl
  · rintro (failure | data) _ means
    · exact congrArg some (Except.error.inj means)
    · exact nomatch means

/-- **The first part that cannot be read, or that the store does not take, stops the sending** with the
reason. -/
theorem stopsAt_sendParts (total atOnce : Nat) (parts ahead : List Part) (flight : Flight) :
    StopsAt (failureOf? key) (sendParts key total atOnce parts ahead flight) := by
  induction parts generalizing ahead flight with
  | nil => exact stopsAt_acknowledgeAll _ _ _
  | cons part parts ih =>
    refine (stopsAt_endRead part).bind fun data => ?_
    refine (stopsAt_attempt_ok fun _ => rfl).bind fun _ => ?_
    have loop (next : Flight) : StopsAt (failureOf? key) (do
        beginReads key (ahead.take 1)
        sendParts key total atOnce parts (ahead.drop 1) next) :=
      (stopsAt_beginReads _).bind fun _ => ih _ _
    dsimp only
    split
    · exact (stopsAt_acknowledge _ _).bind loop
    · exact loop _

/-- An object that the store does not take stops an upload with its error. -/
theorem stopsAt_putWhole (parsed : ObjectPath.parse key = .ok path) (data : Bytes) :
    StopsAt (failureOf? key) (putWhole key data) := by
  rw [putWhole, BlobStore.pathOf, parsed]
  refine (stopsAt_pure path).bind fun path => stopsAt_attempt ?_ ?_
  · rintro (error | ⟨⟩) _ means
    · cases means
    · rfl
  · rintro (error | ⟨⟩) _ means
    · exact congrArg some (Except.error.inj means)
    · cases means

/-- An upload in one piece is stopped by the first of its two failures. -/
theorem stopsAt_inOnePiece (parsed : ObjectPath.parse key = .ok path) (total : UInt64) :
    StopsAt (failureOf? key) (inOnePiece key total) :=
  (stopsAt_attempt_ok fun _ => rfl).bind fun _ => (stopsAt_endRead _).bind fun _ =>
    stopsAt_putWhole parsed _

/-- An upload in parts is stopped by a part, or when it is to be completed. -/
theorem stopsAt_sendAndComplete (options : TransferOptions) (total : UInt64) :
    StopsAt (failureOf? key) (sendAndComplete options key total) := by
  refine (stopsAt_beginReads _).bind fun _ => (stopsAt_sendParts _ _ _ _ _).bind fun sent => ?_
  refine (stopsAt_attempt ?_ ?_).bind fun _ => stopsAt_pure _
  · rintro (error | ⟨⟩) _ means
    · exact nomatch means
    · rfl
  · rintro (error | ⟨⟩) _ means
    · exact congrArg some (Except.error.inj means)
    · exact nomatch means

/-! ### Aborts -/

/-- An upload in parts was opened. -/
def Opened (trace : Trace) : Prop := ∃ path, ⟨.openUpload path, .ok ()⟩ ∈ trace

/-- An upload stopped with the first exchange that means a failure. If it had been opened it was
aborted then, whatever came of that, and at no other time. -/
def BrokenOff (key : String) (trace : Trace) (failure : Failure) : Prop :=
  ∃ front cause back, trace = front ++ cause :: back ∧ failureOf? key cause = some failure ∧
    (∀ exchange ∈ front, failureOf? key exchange = none) ∧
    (∀ exchange ∈ front ++ [cause], exchange.1 ≠ .abortUpload) ∧
    (Opened trace → ∃ reply, back = [⟨.abortUpload, reply⟩]) ∧ (¬ Opened trace → back = [])

/-- What comes before and means no failure does not matter. -/
theorem BrokenOff.prepend {failure : Failure} (h : BrokenOff key trace failure) {exchange : Exchange}
    (clean : failureOf? key exchange = none) (noAbort : exchange.1 ≠ .abortUpload)
    (unopened : ∀ path, exchange ≠ ⟨.openUpload path, .ok ()⟩) :
    BrokenOff key (exchange :: trace) failure := by
  obtain ⟨front, cause, back, rfl, means, before, noAborts, opened, notOpened⟩ := h
  have same : Opened (exchange :: (front ++ cause :: back)) ↔ Opened (front ++ cause :: back) := by
    simp [Opened, fun path => (unopened path).symm]
  refine ⟨exchange :: front, cause, back, rfl, means, ?_, ?_, fun h => opened (same.mp h),
    fun h => notOpened fun h' => h (same.mpr h')⟩
  · exact List.forall_mem_cons.mpr ⟨clean, before⟩
  · exact List.forall_mem_cons.mpr ⟨noAbort, noAborts⟩

/-- A program that neither opens nor aborts an upload is broken off where it stops. -/
theorem brokenOff_of_stopsAt {α : Type} {program : Attempting α} {failure : Failure}
    (stops : StopsAt (failureOf? key) program) (run : Run program trace (.error failure))
    (apart : ∀ exchange ∈ trace, exchange.1 ≠ .abortUpload ∧ ∀ path, exchange.1 ≠ .openUpload path) :
    BrokenOff key trace failure := by
  obtain ⟨front, cause, rfl, means, before⟩ := stops _ _ run
  refine ⟨front, cause, [], rfl, means, before, fun e mem => (apart e mem).1, ?_, fun _ => rfl⟩
  rintro ⟨path, mem⟩
  exact absurd rfl ((apart _ mem).2 path)

/-- A program that failed is followed by an abort, and its failure is kept. -/
theorem run_orAbort_iff {α : Type} {program : Attempting α} {outcome : Except Failure α} :
    Run (orAbort program) trace outcome ↔
      (∃ value, outcome = .ok value ∧ Run program trace (.ok value)) ∨
      ∃ failure front reply, outcome = .error failure ∧ trace = front ++ [⟨.abortUpload, reply⟩] ∧
        Run program front (.error failure) := by
  refine run_caught_iff.trans ⟨?_, ?_⟩
  · rintro ⟨first, front, back, rfl, run, rest⟩
    cases first with
    | ok value =>
      obtain ⟨rfl, rfl⟩ := Dialogue.run_done_iff.mp rest
      exact .inl ⟨value, rfl, by simpa using run⟩
    | error failure =>
      obtain ⟨reply, rest, rfl, ended⟩ := Dialogue.run_ask_iff.mp rest
      obtain ⟨rfl, rfl⟩ := Dialogue.run_done_iff.mp ended
      exact .inr ⟨failure, front, reply, rfl, rfl, run⟩
  · rintro (⟨value, rfl, run⟩ | ⟨failure, front, reply, rfl, rfl, run⟩)
    · exact ⟨.ok value, trace, [], by simp, run, .done _⟩
    · exact ⟨.error failure, front, _, rfl, run, .ask (.done _)⟩

/-! ### Sending -/

/-- What the sending of an object may come to. -/
def SendsOrNot (source : UploadSource) (key : String) (path : ObjectPath) (before : StoreState)
    (trace : Trace) (after : StoreState) : Except Failure Nat → Prop
  | .ok sent => sent = source.length ∧
    after.objects = Function.update before.objects path (some (source.produced trace)) ∧
    trace.reads.map Prod.fst = source.parts ∧ ∀ exchange ∈ trace, exchange.1 ≠ .abortUpload
  | .error failure => after.objects = before.objects ∧ BrokenOff key trace failure

/-- An object is put in one piece, or nothing is done. -/
theorem run_putWhole {data : Bytes} {outcome : Except Failure Nat}
    (run : Run (putWhole key data) trace outcome) (parsed : ObjectPath.parse key = .ok path) :
    ∃ reply, trace = [⟨.put path data, reply⟩] ∧
      outcome = match reply with
        | .ok () => .ok data.length
        | .error error => .error (.transferStore key error) := by
  rw [putWhole, BlobStore.pathOf, parsed] at run
  obtain ⟨reply, rfl, rfl⟩ := run_attempt_iff.mp (run_ofExcept_bind_iff.mp run)
  exact ⟨reply, rfl, by cases reply <;> rfl⟩

/-- Bytes at hand are put in one piece, or nothing is done. -/
theorem sendsOrNot_putWhole {data : Bytes} {outcome : Except Failure Nat}
    (run : Run (putWhole key data) trace outcome) (parsed : ObjectPath.parse key = .ok path)
    (follows : Follows before trace after) :
    SendsOrNot (.bytes data) key path before trace after outcome := by
  obtain ⟨reply, rfl, rfl⟩ := run_putWhole run parsed
  cases reply with
  | error error =>
    rw [follows_cons_of_none rfl] at follows
    obtain rfl : after = before := follows
    exact ⟨rfl, brokenOff_of_stopsAt (stopsAt_putWhole parsed data) run (by simp)⟩
  | ok done =>
    obtain ⟨_, effect, follows⟩ := (follows_cons_of_some rfl).mp follows
    cases effect
    obtain rfl : after = _ := follows
    exact ⟨rfl, rfl, rfl, by simp⟩

/-- Bytes that are read in one piece are put, or nothing is done.

**Proof sketch.** Neither of the two exchanges that read the bytes is anything for the store. If they
were read the rest is one put, whose bytes are those that were read. -/
theorem sendsOrNot_inOnePiece {area : StagingArea} {total : UInt64} {outcome : Except Failure Nat}
    (run : Run (inOnePiece key total) trace outcome) (parsed : ObjectPath.parse key = .ok path)
    (onePiece : ¬ (area.multipart ∧ 0 < total)) (follows : Follows before trace after) :
    SendsOrNot (.read area total) key path before trace after outcome := by
  obtain ⟨_, rest, rfl, reading⟩ := run_attempt_ok_bind_iff.mp run
  obtain ⟨reply, rest, rfl, later⟩ := run_attempt_bind_iff.mp reading
  rw [follows_cons_of_none rfl, follows_cons_of_none (by cases reply <;> rfl)] at follows
  cases reply with
  | error failure =>
    obtain ⟨rfl, rfl⟩ := later
    obtain rfl : after = before := follows
    exact ⟨rfl, brokenOff_of_stopsAt (stopsAt_inOnePiece parsed total) run (by simp)⟩
  | ok data =>
    obtain ⟨reply, rfl, rfl⟩ := run_putWhole later parsed
    have sent := sendsOrNot_putWhole later parsed follows
    cases reply with
    | error error =>
      exact ⟨sent.1, brokenOff_of_stopsAt (stopsAt_inOnePiece parsed total) run (by simp)⟩
    | ok done =>
      have reads_eq : Trace.reads [⟨.beginRead key ⟨0, 0, total⟩, ()⟩,
          ⟨.endRead key ⟨0, 0, total⟩, .ok data⟩, ⟨.put path data.val, .ok done⟩] =
            [(⟨0, 0, total⟩, data.val)] := rfl
      refine ⟨data.property, ?_, ?_, by simp⟩
      · rw [sent.2.1, UploadSource.produced, UploadSource.produced, Trace.produced, reads_eq]
        simp
      · rw [reads_eq, UploadSource.parts, if_neg onePiece]
        simp

/-- An open upload is completed with the bytes of all reads, or nothing shows.

**Proof sketch.** When all parts are sent the store has their bytes and no part is missing, so that
the completion shows just these. All that may fail does so before it, and shows nothing. -/
theorem run_sendAndComplete {options : TransferOptions} {total : UInt64} {outcome : Except Failure Nat}
    (run : Run (sendAndComplete options key total) trace outcome)
    (opened : before.upload = some { path := path }) (follows : Follows before trace after) :
    (∀ sent, outcome = .ok sent → sent = total.toNat ∧
      after.objects = Function.update before.objects path (some trace.produced) ∧
      trace.reads.map Prod.fst = Part.plan total options.partSize) ∧
    (∀ failure, outcome = .error failure → after.objects = before.objects) := by
  rcases run_bind_iff.mp run with ⟨failure, rfl, early⟩ | ⟨_, front, rest, rfl, begins, run'⟩
  · exact ⟨nofun, fun _ _ => objects_eq_of_within (within_beginReads (List.Subset.refl _)) early follows⟩
  obtain ⟨middle, begun, later⟩ := follows_append_iff.mp follows
  obtain ⟨rfl, unread⟩ := run_beginReads begins begun
  have within := within_sendParts key total.toNat options.atOnce {}
    (List.Subset.refl (Part.plan total options.partSize)) (List.drop_subset options.atOnce _)
  rcases run_bind_iff.mp run' with ⟨failure, rfl, early⟩ | ⟨sent, sends, rest, rfl, sending, run''⟩
  · exact ⟨nofun, fun _ _ => objects_eq_of_within within early later⟩
  obtain ⟨last, sending', ending⟩ := follows_append_iff.mp later
  have kept := objects_eq_of_within within sending sending'
  obtain ⟨pending, sent_eq, parts_eq⟩ := run_sendParts sending sending' ⟨[], opened, .nil⟩
  obtain ⟨reply, rest, rfl, completing⟩ := run_attempt_bind_iff.mp run''
  cases reply with
  | error error =>
    obtain ⟨rfl, rfl⟩ := completing
    rw [follows_cons_of_none rfl] at ending
    obtain rfl : after = last := ending
    exact ⟨nofun, fun _ _ => kept⟩
  | ok done =>
    obtain ⟨rfl, rfl⟩ := run_pure_iff.mp completing
    obtain ⟨_, effect, ended⟩ := (follows_cons_of_some rfl).mp ending
    -- only here something shows: the bytes that were sent, none of which is missing
    simp only [Effect, pending] at effect
    obtain ⟨object, whole, rfl⟩ := effect
    obtain rfl : after = _ := ended
    have reads_eq : Trace.reads (front ++ (sends ++ [⟨.completeUpload, .ok done⟩])) =
        Trace.reads sends := by
      have unread' : Trace.reads [⟨.completeUpload, .ok done⟩] = [] := rfl
      simp [unread, unread']
    refine ⟨fun _ same => ?_, by simp⟩
    obtain rfl := Except.ok.inj same
    refine ⟨by simpa [Flight.reach, lengthOf_plan] using sent_eq, ?_, ?_⟩
    · rw [Trace.produced, reads_eq, whole ⟨rfl, rfl⟩]
      simp [StoreState.set, kept, Trace.produced]
    · rw [reads_eq, parts_eq]

/-- Parts are put together to the whole object, or nothing is done.

**Proof sketch.** If the upload cannot be opened that is the failure. Otherwise what was opened is
completed, or it failed and is aborted; an abort shows nothing, whether it succeeds or not. -/
theorem sendsOrNot_inParts {area : StagingArea} {total : UInt64} {outcome : Except Failure Nat}
    (run : Run (inParts area.options key total) trace outcome) (parsed : ObjectPath.parse key = .ok path)
    (inParts : area.multipart ∧ 0 < total) (follows : Follows before trace after) :
    SendsOrNot (.read area total) key path before trace after outcome := by
  rw [Upload.inParts, BlobStore.pathOf, parsed] at run
  obtain ⟨reply, rest, rfl, later⟩ := run_attempt_bind_iff.mp (run_ofExcept_bind_iff.mp run)
  cases reply with
  | error error =>
    obtain ⟨rfl, rfl⟩ := later
    rw [follows_cons_of_none rfl] at follows
    obtain rfl : after = before := follows
    exact ⟨rfl, [], _, [], rfl, rfl, by simp, by simp, by simp [Opened], fun _ => rfl⟩
  | ok done =>
    obtain ⟨middle, effect, follows⟩ := (follows_cons_of_some rfl).mp follows
    cases effect
    have opened (rest : Trace) : Opened (⟨.openUpload path, .ok done⟩ :: rest) :=
      ⟨path, List.mem_cons_self⟩
    rcases run_orAbort_iff.mp later with ⟨sent, rfl, run'⟩ | ⟨failure, front, reply, rfl, rfl, run'⟩
    · obtain ⟨complete, _⟩ := run_sendAndComplete run' rfl follows
      obtain ⟨sent_eq, objects_eq, parts_eq⟩ := complete sent rfl
      refine ⟨sent_eq, objects_eq, ?_, ?_⟩
      · rw [UploadSource.parts, if_pos inParts]
        exact parts_eq
      · refine List.forall_mem_cons.mpr ⟨by simp, fun exchange mem => ?_⟩
        exact (Sends.apart (run'.forall_within (within_sendAndComplete _ _) exchange mem)).1
    · obtain ⟨last, follows, aborting⟩ := follows_append_iff.mp follows
      obtain ⟨_, kept⟩ := run_sendAndComplete run' rfl follows
      have aborted : after.objects = last.objects := by
        refine aborting.objects_eq fun exchange mem event means => ?_
        obtain rfl := List.mem_singleton.mp mem
        cases reply <;> cases means
        exact id
      obtain ⟨front, cause, rfl, means, clean⟩ := stopsAt_sendAndComplete _ _ _ _ run'
      refine ⟨aborted.trans (kept failure rfl), ⟨.openUpload path, .ok done⟩ :: front, cause, [_],
        by simp, means, List.forall_mem_cons.mpr ⟨rfl, clean⟩, ?_, fun _ => ⟨reply, rfl⟩, fun h => ?_⟩
      · refine List.forall_mem_cons.mpr ⟨by simp, fun exchange mem => ?_⟩
        exact (Sends.apart (run'.forall_within (within_sendAndComplete _ _) exchange mem)).1
      · exact absurd (opened _) h

/-- An object is sent whole, or nothing is done. -/
theorem sendsOrNot_send {source : UploadSource} {outcome : Except Failure Nat}
    (run : Run (source.send key) trace outcome) (parsed : ObjectPath.parse key = .ok path)
    (follows : Follows before trace after) : SendsOrNot source key path before trace after outcome := by
  cases source with
  | read area total =>
    by_cases inParts : area.multipart ∧ 0 < total
    · rw [UploadSource.send, if_pos inParts] at run
      exact sendsOrNot_inParts run parsed inParts follows
    · rw [UploadSource.send, if_neg inParts] at run
      exact sendsOrNot_inOnePiece run parsed inParts follows
  | bytes data => exact sendsOrNot_putWhole run parsed follows

/-! ### Whole uploads -/

/-- The store is asked for the size of an object that should not be there. -/
theorem run_ensureAbsent (parsed : ObjectPath.parse key = .ok path) {outcome : Except Failure Unit}
    (run : Run (ensureAbsent key) trace outcome) :
    ∃ reply, trace = [⟨.head path, reply⟩] ∧ outcome = match failureOf? key ⟨.head path, reply⟩ with
      | some failure => .error failure
      | none => .ok () := by
  obtain ⟨contained, front, back, rfl, asking, rest⟩ := run_caught_iff.mp run
  obtain ⟨size, front, later, rfl, head, meaning⟩ := run_caught_iff.mp asking
  rw [BlobStore.head, BlobStore.pathOf, parsed] at head
  obtain ⟨reply, rfl, rfl⟩ := run_attempt_iff.mp (run_ofExcept_bind_iff.mp head)
  refine ⟨reply, ?_⟩
  rcases reply with error | size
  · rcases error with ⟨location, cause⟩ | ⟨location, cause⟩ | ⟨location, cause⟩ | ⟨location, cause⟩ <;>
    · obtain ⟨rfl, rfl⟩ := Dialogue.run_done_iff.mp meaning
      obtain ⟨rfl, rfl⟩ := Dialogue.run_done_iff.mp rest
      exact ⟨rfl, rfl⟩
  · obtain ⟨rfl, rfl⟩ := Dialogue.run_done_iff.mp meaning
    obtain ⟨rfl, rfl⟩ := Dialogue.run_done_iff.mp rest
    exact ⟨rfl, rfl⟩

/-- There is no object under a key without a path, and no upload. -/
theorem run_ensureAbsent_of_error {error : ObjectPath.Error}
    (unparsed : ObjectPath.parse key = .error error)
    {outcome : Except Failure Unit} (run : Run (ensureAbsent key) trace outcome) :
    trace = [] ∧ outcome = .error (.transfer key (.path error)) := by
  obtain ⟨contained, front, back, rfl, asking, rest⟩ := run_caught_iff.mp run
  obtain ⟨size, front, later, rfl, head, meaning⟩ := run_caught_iff.mp asking
  rw [BlobStore.head, BlobStore.pathOf, unparsed] at head
  obtain ⟨rfl, rfl⟩ := run_ofExcept_bind_iff.mp head
  obtain ⟨rfl, rfl⟩ := Dialogue.run_done_iff.mp meaning
  obtain ⟨rfl, rfl⟩ := Dialogue.run_done_iff.mp rest
  exact ⟨rfl, rfl⟩

/-- An upload under a key without a path takes no call. -/
theorem run_whole_of_error {error : ObjectPath.Error} {total : Nat} {send : Attempting Nat}
    {outcome : Except Failure Nat} (unparsed : ObjectPath.parse key = .error error)
    (run : Run (whole key total send) trace outcome) :
    trace = [] ∧ outcome = .error (.transfer key (.path error)) := by
  rcases run_bind_iff.mp run with ⟨failure, rfl, asking⟩ | ⟨_, front, rest, rfl, asking, _⟩
  · obtain ⟨rfl, same⟩ := run_ensureAbsent_of_error unparsed asking
    exact ⟨rfl, congrArg Except.error (Except.error.inj same)⟩
  · exact nomatch (run_ensureAbsent_of_error unparsed asking).2

/-- Asking for an object changes none. -/
theorem not_writes_head {reply : (Call.head path).Reply} {event : StoreEvent}
    (happened : Exchange.storeEvent? ⟨.head path, reply⟩ = some event) : ¬ event.Writes := by
  rcases reply with error | size
  · rcases error with ⟨location, cause⟩ | ⟨location, cause⟩ | ⟨location, cause⟩ | ⟨location, cause⟩
    · cases happened
      exact id
    all_goals exact nomatch happened
  · exact nomatch happened

/-- An upload ends when there is an object already, when the sending fails, or when all is done.

**Proof sketch.** The question is asked first, and what it is answered is a failure or none; then the
listener is told, the bytes are sent, and with the last two calls counted and told. -/
theorem run_whole {total : Nat} {send : Attempting Nat} {outcome : Except Failure Nat}
    (parsed : ObjectPath.parse key = .ok path) (run : Run (whole key total send) trace outcome) :
    (∃ reply failure, trace = [⟨.head path, reply⟩] ∧
      failureOf? key ⟨.head path, reply⟩ = some failure ∧ outcome = .error failure) ∨
    ∃ reply sending, failureOf? key ⟨.head path, reply⟩ = none ∧
      ((∃ failure, trace = ⟨.head path, reply⟩ :: ⟨.notify (.started key total), ()⟩ :: sending ∧
        Run send sending (.error failure) ∧ outcome = .error failure) ∨
      ∃ sent, trace = ⟨.head path, reply⟩ :: ⟨.notify (.started key total), ()⟩ :: (sending ++
          [⟨.count (.moved .upload sent), ()⟩, ⟨.notify (.complete key sent), ()⟩]) ∧
        Run send sending (.ok sent) ∧ outcome = .ok sent) := by
  rcases run_bind_iff.mp run with ⟨failure, rfl, asking⟩ | ⟨_, front, rest, rfl, asking, run'⟩
  · obtain ⟨reply, rfl, means⟩ := run_ensureAbsent parsed asking
    cases answer : failureOf? key ⟨.head path, reply⟩ with
    | none => simp [answer] at means
    | some failure' =>
      obtain rfl : failure = failure' := by simpa [answer] using means
      exact .inl ⟨reply, failure, rfl, answer, rfl⟩
  · obtain ⟨reply, rfl, means⟩ := run_ensureAbsent parsed asking
    have absent : failureOf? key ⟨.head path, reply⟩ = none := by
      cases answer : failureOf? key ⟨.head path, reply⟩ with
      | none => rfl
      | some failure => simp [answer] at means
    obtain ⟨rest, rfl, run''⟩ := run_notify_bind_iff.mp run'
    rcases run_bind_iff.mp run'' with ⟨failure, rfl, sending⟩ | ⟨sent, front, rest, rfl, sending, report⟩
    · exact .inr ⟨reply, _, absent, .inl ⟨failure, rfl, sending, rfl⟩⟩
    · obtain ⟨rest, rfl, report'⟩ := run_count_bind_iff.mp report
      obtain ⟨rest, rfl, report''⟩ := run_notify_bind_iff.mp report'
      obtain ⟨rfl, rfl⟩ := run_pure_iff.mp report''
      exact .inr ⟨reply, front, absent, .inr ⟨sent, rfl, sending, rfl⟩⟩

/-- An object that may be uploaded is not there, and nothing has changed. -/
theorem follows_head {reply : (Call.head path).Reply} {total : Nat} {rest : Trace}
    (absent : failureOf? key ⟨.head path, reply⟩ = none)
    (follows : Follows before (⟨.head path, reply⟩ :: ⟨.notify (.started key total), ()⟩ :: rest)
      after) :
    before.objects path = none ∧ Follows before rest after := by
  rcases reply with error | size
  · rcases error with ⟨location, cause⟩ | ⟨location, cause⟩ | ⟨location, cause⟩ | ⟨location, cause⟩
    · obtain ⟨_, ⟨rfl, missed⟩, later⟩ := (follows_cons_of_some rfl).mp follows
      exact ⟨missed, (follows_cons_of_none rfl).mp later⟩
    all_goals exact nomatch absent
  · exact nomatch absent

end Upload

namespace UploadSource

variable {key : String} {path : ObjectPath} {source : UploadSource} {trace : Trace}
  {before after : StoreState} {outcome : Except Failure Nat}

/-- What an upload may come to. -/
structure AllOrNothing (key : String) (source : UploadSource) (before : StoreState) (trace : Trace)
    (after : StoreState) (outcome : Except Failure Nat) : Prop where
  /-- If it fails, every object is what it was before. -/
  unchanged : ∀ failure, outcome = .error failure → after.objects = before.objects
  /-- A failure is that of the exchange that was the first to fail, whatever came of the abort. -/
  brokenOff : ∀ failure path, outcome = .error failure → ObjectPath.parse key = .ok path →
    Upload.BrokenOff key trace failure
  /-- A key without a path takes no call. -/
  pathless : ∀ error, ObjectPath.parse key = .error error →
    trace = [] ∧ outcome = .error (.transfer key (.path error))
  /-- If it succeeds, the object has all bytes that were produced, nothing else has changed, and
  nothing was aborted. -/
  complete : ∀ sent, outcome = .ok sent → sent = source.length ∧
    (∃ path, ObjectPath.parse key = .ok path ∧
      after.objects = Function.update before.objects path (some (source.produced trace))) ∧
    (source.produced trace).length = source.length ∧ trace.reads.map Prod.fst = source.parts ∧
    ∀ exchange ∈ trace, exchange.1 ≠ .abortUpload
  /-- If the object is there already, the store is asked for it and nothing else is done. -/
  existing : ∀ path, ObjectPath.parse key = .ok path → (before.objects path).isSome →
    ∃ reply failure, trace = [⟨.head path, reply⟩] ∧ outcome = .error failure ∧
      Upload.failureOf? key ⟨.head path, reply⟩ = some failure

/-- The bytes of the parts that are read are as many as are asked for. -/
theorem lengthOf_parts (area : StagingArea) (total : UInt64) :
    Upload.lengthOf (read area total).parts = total.toNat := by
  rw [parts]
  split
  · exact Upload.lengthOf_plan _ _
  · simp

/-- Something is read, even for an object without bytes. -/
theorem parts_ne_nil (area : StagingArea) (total : UInt64) : (read area total).parts ≠ [] := by
  intro nothing
  have length_eq := lengthOf_parts area total
  rw [nothing, Upload.lengthOf_nil] at length_eq
  have empty : ¬ (0 < total) := by
    rw [UInt64.lt_iff_toNat_lt, ← length_eq]
    exact Nat.not_lt_zero _
  rw [parts, if_neg fun both => empty both.2] at nothing
  exact List.cons_ne_nil _ _ nothing

/-- Every part ends within the bytes that are asked for. -/
theorem inside_parts (area : StagingArea) (total : UInt64) : ∀ part ∈ (read area total).parts,
    part.offset.toNat + part.length.toNat ≤ total.toNat := by
  rw [parts]
  split
  · exact Part.inside_plan
  · intro part mem
    obtain rfl := List.mem_singleton.mp mem
    simp

/-- If parts hold whole records, every part starts at a record and ends within the bytes that are asked
for. -/
theorem aligned_parts (area : StagingArea) {unit : UInt64} (positive : 0 < unit.toNat) (total : UInt64) :
    ∀ part ∈ (read (area.alignedTo unit) total).parts,
      unit.toNat ∣ part.offset.toNat ∧ part.offset.toNat + part.length.toNat ≤ total.toNat := by
  rw [parts]
  split
  · have size_eq := area.options.toNat_partSize_alignedTo positive
    refine Part.aligned_plan ?_ ?_
    · rw [StagingArea.alignedTo, size_eq]
      exact Nat.mul_pos (by omega) positive
    · rw [StagingArea.alignedTo, size_eq]
      exact Nat.dvd_mul_left _ _
  · intro part mem
    obtain rfl := List.mem_singleton.mp mem
    simp

/-- The slices of the parts are together the first bytes, as many as are asked for. -/
theorem flatMap_slice_parts (area : StagingArea) (total : UInt64) (bytes : Bytes) :
    (read area total).parts.flatMap (fun part => bytes.slice part.extent) = bytes.take total.toNat := by
  have first : bytes.take total.toNat = bytes.slice (0, total.toNat) := by simp [Bytes.slice]
  rw [first, parts]
  split
  · have tiles := Part.tiles_plan total area.options.partSize
    rw [← List.flatMap_map, tiles.flatMap_slice, Nat.sub_zero]
  · simp [Part.extent]

/-- If every part that was read is the slice of its extent, all of them together are the first bytes.
-/
theorem produced_of_slices {area : StagingArea} {total : UInt64} {bytes : Bytes}
    (slices : ∀ brought ∈ trace.reads, brought.2 = bytes.slice brought.1.extent)
    (parts_eq : trace.reads.map Prod.fst = (read area total).parts) :
    (read area total).produced trace = bytes.take total.toNat :=
  calc trace.reads.flatMap Prod.snd
      = trace.reads.flatMap fun brought => bytes.slice brought.1.extent := List.flatMap_congr slices
    _ = (trace.reads.map Prod.fst).flatMap fun part => bytes.slice part.extent := by
        rw [List.flatMap_map]
    _ = bytes.take total.toNat := by rw [parts_eq, flatMap_slice_parts]

/-- What was produced for an object depends on what was read alone. -/
theorem produced_congr (source : UploadSource) {trace trace' : Trace} (h : trace.reads = trace'.reads) :
    source.produced trace = source.produced trace' := by
  cases source with
  | read area total => exact congrArg (List.flatMap Prod.snd) h
  | bytes data => rfl

/-- As many bytes are produced as are asked for, when all parts were read. -/
theorem length_produced (parts_eq : trace.reads.map Prod.fst = source.parts) :
    (source.produced trace).length = source.length := by
  cases source with
  | read area total => rw [produced, Upload.length_produced, parts_eq, lengthOf_parts, length]
  | bytes data => rfl

/-- What is read for an upload is read while it is sent. -/
theorem reads_whole (key : String) (reply : (Call.head path).Reply) (total sent : Nat)
    (sending : Trace) :
    Trace.reads (⟨.head path, reply⟩ :: ⟨.notify (.started key total), ()⟩ :: (sending ++
      [⟨.count (.moved .upload sent), ()⟩, ⟨.notify (.complete key sent), ()⟩])) = sending.reads := by
  rw [Trace.reads_cons_of_none (by cases reply <;> rfl), Trace.reads_cons_of_none rfl,
    Trace.reads_append]
  exact List.append_nil _

/-- An upload comes to what the sending of its object comes to, unless there is an object already.

**Proof sketch.** If there is one the first call decides. What is told the listener before and after
the sending is nothing for the store. -/
theorem sendsOrNot_upload (run : Run (source.upload key) trace outcome)
    (parsed : ObjectPath.parse key = .ok path) (follows : Follows before trace after) :
    Upload.SendsOrNot source key path before trace after outcome := by
  rw [upload_eq] at run
  rcases Upload.run_whole parsed run with ⟨reply, failure, rfl, means, rfl⟩ |
    ⟨reply, sending, absent, ⟨failure, rfl, run', rfl⟩ | ⟨sent, rfl, run', rfl⟩⟩
  · have kept : after.objects = before.objects := by
      refine follows.objects_eq fun exchange mem event happened => ?_
      obtain rfl := List.mem_singleton.mp mem
      exact Upload.not_writes_head happened
    exact ⟨kept, [], _, [], rfl, means, by simp, by simp, by simp [Upload.Opened], fun _ => rfl⟩
  · obtain ⟨_, later⟩ := Upload.follows_head absent follows
    obtain ⟨kept, brokenOff⟩ := Upload.sendsOrNot_send run' parsed later
    exact ⟨kept, (brokenOff.prepend rfl (by simp) (by simp)).prepend absent (by simp) (by simp)⟩
  · obtain ⟨_, later⟩ := Upload.follows_head absent follows
    obtain ⟨middle, later', reported⟩ := follows_append_iff.mp later
    rw [follows_cons_of_none rfl, follows_cons_of_none rfl] at reported
    obtain rfl : after = middle := reported
    obtain ⟨sent_eq, objects_eq, parts_eq, noAbort⟩ := Upload.sendsOrNot_send run' parsed later'
    have reads_eq := reads_whole key reply source.length sent sending
    refine ⟨sent_eq, ?_, ?_, ?_⟩
    · rw [produced_congr source reads_eq, objects_eq]
    · rw [reads_eq, parts_eq]
    · simp only [List.forall_mem_cons, List.forall_mem_append]
      exact ⟨by simp, by simp, noAbort, by simp⟩

/-- If there is an object already, the store is asked for it and nothing else is done. -/
theorem run_upload_of_present (run : Run (source.upload key) trace outcome)
    (parsed : ObjectPath.parse key = .ok path) (present : (before.objects path).isSome)
    (follows : Follows before trace after) :
    ∃ reply failure, trace = [⟨.head path, reply⟩] ∧ outcome = .error failure ∧
      Upload.failureOf? key ⟨.head path, reply⟩ = some failure := by
  rw [upload_eq] at run
  rcases Upload.run_whole parsed run with ⟨reply, failure, rfl, means, rfl⟩ |
    ⟨reply, sending, absent, ⟨failure, rfl, _⟩ | ⟨sent, rfl, _⟩⟩
  · exact ⟨reply, failure, rfl, rfl, means⟩
  all_goals
    obtain ⟨missed, _⟩ := Upload.follows_head absent follows
    simp [missed] at present

/-- **Every upload is all or nothing.** In a store that keeps its promises, a failed upload leaves
every object as it was; one in parts that had been opened is aborted once, and the failure is that
of the first exchange that failed. A successful upload puts the bytes that were produced under the
key, and changes nothing else. -/
theorem run_upload (run : Run (source.upload key) trace outcome) (follows : Follows before trace after) :
    AllOrNothing key source before trace after outcome := by
  cases parsed : ObjectPath.parse key with
  | error error =>
    rw [upload_eq] at run
    obtain ⟨rfl, rfl⟩ := Upload.run_whole_of_error parsed run
    obtain rfl : after = before := follows
    exact {
      unchanged := fun _ _ => rfl
      brokenOff := fun _ _ _ h => nomatch parsed.symm.trans h
      pathless := fun _ h => by simpa [parsed] using h
      complete := nofun
      existing := fun _ h => nomatch parsed.symm.trans h }
  | ok path =>
    have came := sendsOrNot_upload run parsed follows
    refine ⟨?_, ?_, fun _ h => (nomatch parsed.symm.trans h), ?_, fun other h present => ?_⟩
    · rintro failure rfl
      exact came.1
    · rintro failure _ rfl _
      exact came.2
    · rintro sent rfl
      obtain ⟨sent_eq, objects_eq, parts_eq, noAbort⟩ := came
      exact ⟨sent_eq, ⟨path, parsed, objects_eq⟩, length_produced parts_eq, parts_eq, noAbort⟩
    · exact run_upload_of_present run h present follows

/-- A store that loses the second part of two: the upload is broken off, and nothing shows. -/
theorem run_upload_of_lost_part :
    ∃ trace after, AllOrNothing "k" (read ⟨"", true, ⟨4, 4, 2⟩⟩ 8) ⟨fun _ => none, none⟩ trace after
      (.error (.transferStore "k" (.generic "Fault" "injected"))) := by
  have failed : ((World.small [⟨.sendPart, some 1, .generic⟩]).play
      ((read ⟨"", true, ⟨4, 4, 2⟩⟩ 8).upload "k").run).1 =
        .error (.transferStore "k" (.generic "Fault" "injected")) := by rfl
  obtain ⟨after, run, follows, _⟩ :=
    World.exists_follows ((read ⟨"", true, ⟨4, 4, 2⟩⟩ 8).upload "k").run
      (World.small [⟨.sendPart, some 1, .generic⟩]) rfl (by simp [World.small, FaultyStore.Honest])
  rw [failed] at run
  exact ⟨_, after, run_upload run follows.follows⟩

end UploadSource

end GraphOffload

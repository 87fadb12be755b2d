import GraphOffload.Proofs.Corpus.Gaps
import GraphOffload.Proofs.Transfer.Unhindered

/-!
# Uploads of vectors that are lost

An upload asks for the bytes of a corpus part by part. If the vector at one of these bytes is lost, a
part of the upload cannot be read, whichever way the bytes are cut, and nothing of the upload shows.

## Main definitions

* `GraphOffload.Exchange.ReadsOf` : what is read in an exchange is read of a corpus.
* `GraphOffload.UploadSource.Founders` : what becomes of an upload that asks for what is lost.

## Main results

* `GraphOffload.UploadSource.label_of_error` : an upload that finds no object and breaks off is a failed
  transfer, if what cannot be read is one.
* `GraphOffload.Corpus.Lossy.founders` : an upload that asks for a lost vector founders.
-/

namespace GraphOffload

open Attempting StoreState

variable {key : String} {path : ObjectPath} {trace : Trace} {before after : StoreState}
  {σ : Type} [Cursor σ]

/-- What is read in an exchange is read of the corpus. -/
def Exchange.ReadsOf (corpus : Corpus σ) : Exchange → Prop
  | ⟨.endRead key part, reply⟩ => reply = corpus.readPart key part
  | _ => True

/-- A world reads of its own corpus. -/
theorem World.readsOf_transcript {α : Type} (program : Program α) (world : World σ) :
    ∀ exchange ∈ program.transcript answer world, Exchange.ReadsOf world.corpus exchange := by
  refine Dialogue.forall_transcript (fun other : World σ => other.corpus = world.corpus)
    (fun call other same => ⟨?_, (corpus_answer other call).trans same⟩) program rfl
  cases call with
  | endRead key part => exact same ▸ rfl
  | _ => trivial

/-! ### The word for a broken upload -/

/-- What fails while an object is sent is a failed transfer, or the reading of a part of the plan. -/
theorem Upload.label_or_unread {plan : List Part} {exchange : Exchange} {failure : Failure}
    (transmits : Transmits key plan exchange.1) (means : failureOf? key exchange = some failure) :
    failure.label = "transfer" ∨ ∃ part ∈ plan, exchange = ⟨.endRead key part, .error failure⟩ := by
  rcases uploadFails_or_unread transmits means with fails | unread
  · obtain ⟨call, reply⟩ := exchange
    left
    cases call with
    | head path => exact transmits.elim
    | put path data | openUpload path | completeUpload | endPart part =>
      cases reply with
      | error error =>
        obtain rfl := Option.some.inj means
        rfl
      | ok done => exact nomatch means
    | _ => exact nomatch fails
  · exact .inr unread

namespace UploadSource

/-- Every byte that is asked for lies in a part. -/
theorem covers_parts (area : StagingArea) {total : UInt64} {place : Nat} (asked : place < total.toNat) :
    ∃ part ∈ (read area total).parts, part.offset.toNat ≤ place ∧
      place < part.offset.toNat + part.length.toNat := by
  rw [parts]
  split
  · obtain ⟨_, mem, within⟩ :=
      (Part.tiles_plan total area.options.partSize).covers (Nat.zero_le place) asked
    obtain ⟨part, planned, rfl⟩ := List.mem_map.mp mem
    exact ⟨part, planned, within⟩
  · exact ⟨_, List.mem_singleton_self _, Nat.zero_le _, by simpa using asked⟩

/-- An upload that succeeds has read every part. -/
theorem reads_of_ok (source : UploadSource) {sent : Nat} (run : Run (source.upload key) trace (.ok sent))
    (follows : Follows before trace after) : trace.reads.map Prod.fst = source.parts := by
  cases parsed : ObjectPath.parse key with
  | error error =>
    rw [upload_eq] at run
    exact nomatch (Upload.run_whole_of_error parsed run).2
  | ok path =>
    obtain ⟨_, _, parts_eq, _⟩ := sendsOrNot_upload run parsed follows
    exact parts_eq

/-- An upload that fails leaves every object as it was. -/
theorem objects_of_error (source : UploadSource) {failure : Failure}
    (run : Run (source.upload key) trace (.error failure)) (follows : Follows before trace after) :
    after.objects = before.objects := by
  cases parsed : ObjectPath.parse key with
  | error error =>
    rw [upload_eq] at run
    obtain ⟨rfl, _⟩ := Upload.run_whole_of_error parsed run
    exact congrArg StoreState.objects (follows : after = before)
  | ok path => exact (sendsOrNot_upload run parsed follows).1

/-- **An upload that breaks off is a failed transfer**, unless there is an object under its key, or what
cannot be read is something else.

**Proof sketch.** A key without a path is a failed transfer. If the key has one, the first call does
not find an object, as the store is truthful; what stops the sending then is the store or a part. -/
theorem label_of_error (source : UploadSource) {failure : Failure}
    (run : Run (source.upload key) trace (.error failure))
    (absent : ∀ path, ObjectPath.parse key = .ok path → before.objects path = none)
    (follows : FollowsTruly before trace after)
    (unread : ∀ part ∈ source.parts, ∀ failure, ⟨.endRead key part, .error failure⟩ ∈ trace →
      failure.label = "transfer") :
    failure.label = "transfer" := by
  have promised := follows.follows
  cases parsed : ObjectPath.parse key with
  | error error =>
    rw [upload_eq] at run
    obtain ⟨_, same⟩ := Upload.run_whole_of_error parsed run
    obtain rfl := Except.error.inj same
    rfl
  | ok path =>
    rw [upload_eq] at run
    rcases Upload.run_whole parsed run with ⟨reply, _, rfl, means, same⟩ |
      ⟨reply, sending, free, ⟨_, rfl, sends, same⟩ | ⟨sent, _, _, same⟩⟩
    · obtain rfl := Except.error.inj same
      obtain ⟨_, ⟨_, affirms⟩, _⟩ := follows
      rcases reply with error | size
      · rcases error with ⟨location, cause⟩ | ⟨location, cause⟩ | ⟨location, cause⟩ | ⟨location, cause⟩
        · exact nomatch means
        all_goals
          obtain rfl := Option.some.inj means
          rfl
      · exact absurd (absent path parsed) affirms
    · obtain rfl := Except.error.inj same
      obtain ⟨_, later⟩ := Upload.follows_head free promised
      obtain ⟨_, front, cause, back, rfl, means, _⟩ := Upload.sendsOrNot_send sends parsed later
      have mem : cause ∈ front ++ cause :: back := by simp
      have transmits := sends.forall_within (source.within_send key) cause mem
      rcases Upload.label_or_unread transmits means with broken | ⟨part, planned, rfl⟩
      · exact broken
      · exact unread part planned _ (List.mem_cons_of_mem _ (List.mem_cons_of_mem _ mem))
    · exact nomatch same

/-- What becomes of an upload that asks for what is lost, of vectors that take `width` bytes each. -/
structure Founders (key : String) (source : UploadSource) (width : Nat) (reason : Fault → Prop)
    (before : StoreState) (trace : Trace) (after : StoreState) (outcome : Except Failure Nat) : Prop where
  /-- It fails. -/
  failed : ∃ failure, outcome = .error failure
  /-- No object appears, goes or changes. -/
  unchanged : after.objects = before.objects
  /-- If there was no object under the key, and every part starts at a vector, the transfer failed. -/
  transfer : (∀ path, ObjectPath.parse key = .ok path → before.objects path = none) →
    (∀ part ∈ source.parts, width ∣ part.offset.toNat) →
    ∃ failure, outcome = .error failure ∧ failure.label = "transfer"
  /-- If moreover the key has a path and the store works, the reading is what broke the transfer off. -/
  unread : ∀ path, ObjectPath.parse key = .ok path → before.objects path = none →
    (∀ part ∈ source.parts, width ∣ part.offset.toNat) →
    (∀ exchange ∈ trace, exchange.uploadFails = false) →
    ∃ fault, outcome = .error (.transferFault key fault) ∧ reason fault

end UploadSource

namespace Corpus.Lossy

variable {records : List Record} {shape : CorpusShape} {cursor : σ} {number : Nat} {id : DocId}
  {lost : Fault} {area : StagingArea} {total : UInt64} {outcome : Except Failure Nat}

/-- An upload that asks for a lost vector does not succeed.

**Proof sketch.** If it did, it would have read all its parts, and with them the one that the lost vector
lies in. -/
theorem exists_error (lossy : Lossy shape records cursor)
    (gap : records[number]? = some (id, .error lost))
    (asked : number * shape.bytesPerVector.toNat < total.toNat)
    (run : Run (Upload.vectors area key total) trace outcome) (follows : Follows before trace after)
    (reads : ∀ exchange ∈ trace, exchange.ReadsOf ⟨shape, .ok cursor⟩) :
    ∃ failure, outcome = .error failure := by
  cases outcome with
  | error failure => exact ⟨failure, rfl⟩
  | ok sent =>
    have upload : Run ((UploadSource.read area total).upload key) trace (.ok sent) := run
    have parts_eq := UploadSource.reads_of_ok _ upload follows
    obtain ⟨part, planned, from_there, beyond⟩ := UploadSource.covers_parts area asked
    rw [← parts_eq] at planned
    obtain ⟨brought, was_read, rfl⟩ := List.mem_map.mp planned
    obtain ⟨key', data, came, _⟩ := Trace.exists_endRead_of_mem_reads was_read
    obtain ⟨failure, fails⟩ := lossy.readPart_of_gap gap from_there beyond key'
    exact nomatch (reads _ came).trans fails

/-- **An upload that asks for a lost vector founders**, in parts or in one piece.

**Proof sketch.** The upload fails, as the part with the lost vector cannot be read
(`Lossy.exists_error`). Every part that could not be read failed at a record or came up short
(`Lossy.exists_fault_of_readPart`), so that the failure is one of these, as nothing else in such a store
can fail (`UploadSource.ok_or_unread`). -/
theorem founders (lossy : Lossy shape records cursor)
    (gap : records[number]? = some (id, .error lost))
    (asked : number * shape.bytesPerVector.toNat < total.toNat)
    (run : Run (Upload.vectors area key total) trace outcome)
    (follows : FollowsTruly before trace after)
    (reads : ∀ exchange ∈ trace, exchange.ReadsOf ⟨shape, .ok cursor⟩) :
    UploadSource.Founders key (.read area total) shape.bytesPerVector.toNat
      (fun fault => (∃ id, (id, .error fault) ∈ records) ∨
        ∃ part received, fault = Part.shortFault part received)
      before trace after outcome := by
  obtain ⟨failure, rfl⟩ := lossy.exists_error gap asked run follows.follows reads
  have unread {part : Part} {reason : Failure}
      (aligned : shape.bytesPerVector.toNat ∣ part.offset.toNat)
      (came : ⟨.endRead key part, .error reason⟩ ∈ trace) :
      ∃ fault, reason = .transferFault key fault ∧
        ((∃ id, (id, .error fault) ∈ records) ∨ ∃ received, fault = part.shortFault received) := by
    have read_eq : .error reason = Corpus.readPart ⟨shape, .ok cursor⟩ key part := reads _ came
    exact lossy.exists_fault_of_readPart aligned read_eq.symm
  have upload : Run ((UploadSource.read area total).upload key) trace (.error failure) := run
  refine ⟨⟨failure, rfl⟩, UploadSource.objects_of_error _ upload follows.follows, ?_, ?_⟩
  · intro absent aligned
    refine ⟨failure, rfl, UploadSource.label_of_error _ upload absent follows ?_⟩
    intro part planned reason came
    obtain ⟨fault, rfl, _⟩ := unread (aligned part planned) came
    rfl
  · intro path parsed absent aligned works
    rcases UploadSource.ok_or_unread _ upload parsed absent follows works with
      ⟨sent, same⟩ | ⟨reason, same, part, planned, front, back, rfl, _⟩
    · exact nomatch same
    · have came : ⟨.endRead key part, .error reason⟩ ∈ front ++ ⟨.endRead key part, .error reason⟩ :: back :=
        List.mem_append_right _ List.mem_cons_self
      obtain ⟨fault, rfl, why⟩ := unread (aligned part planned) came
      exact ⟨fault, same, why.imp_right fun ⟨received, eq⟩ => ⟨part, received, eq⟩⟩

end Corpus.Lossy

end GraphOffload

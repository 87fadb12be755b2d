import GraphOffload.Proofs.Transfer.Atomicity

/-!
# Uploads that nothing hinders

An upload fails only for a reason: there is an object already, the store fails a call, or a part of
the plan cannot be read. Where there is none of these it succeeds.

## Main definitions

* `GraphOffload.Exchange.uploadFails` : the store fails a call of an upload.
* `GraphOffload.Upload.ComesToUnread` : an upload comes to a part that could not be read.

## Main results

* `GraphOffload.Upload.ok_or_unread` : a store that fails no call takes what can be read.
* `GraphOffload.UploadSource.ok_or_unread` : an upload that finds no object succeeds, or comes to a
  part that cannot be read.
* `GraphOffload.UploadSource.run_upload_ok` : what a successful upload has done.
* `GraphOffload.UploadSource.exists_ok_of_unhindered` : an upload without a reason to fail succeeds.
-/

namespace GraphOffload

open Attempting StoreState

/-- The store fails a call of an upload. That an object is not there is no failure. -/
def Exchange.uploadFails : Exchange → Bool
  | ⟨.head _, .error (.notFound _ _)⟩ => false
  | ⟨.head _, .error _⟩ | ⟨.put _ _, .error _⟩ | ⟨.openUpload _, .error _⟩ | ⟨.endPart _, .error _⟩
  | ⟨.completeUpload, .error _⟩ => true
  | _ => false

variable {key : String} {path : ObjectPath} {trace : Trace} {before after : StoreState}

namespace Upload

/-- What fails while an object is sent is a call on the store, or the reading of a part of the plan.
-/
theorem uploadFails_or_unread {plan : List Part} {exchange : Exchange} {failure : Failure}
    (transmits : Transmits key plan exchange.1) (means : failureOf? key exchange = some failure) :
    exchange.uploadFails = true ∨ ∃ part ∈ plan, exchange = ⟨.endRead key part, .error failure⟩ := by
  obtain ⟨call, reply⟩ := exchange
  cases call with
  | head path => exact transmits.elim
  | put path data | openUpload path | completeUpload =>
    cases reply with
    | error error => exact .inl rfl
    | ok done => exact nomatch means
  | endPart part =>
    cases reply with
    | error error => exact .inl rfl
    | ok done => exact nomatch means
  | endRead key' part =>
    obtain ⟨rfl, planned⟩ := transmits
    cases reply with
    | error reason =>
      obtain rfl := Option.some.inj means
      exact .inr ⟨part, planned, rfl⟩
    | ok data => exact nomatch means
  | _ => exact nomatch means

/-- An upload comes to a part of its plan that could not be read, and nothing has failed before. -/
def ComesToUnread (key : String) (plan : List Part) (trace : Trace) (failure : Failure) : Prop :=
  ∃ part ∈ plan, ∃ front back : Trace,
    trace = front ++ ⟨.endRead key part, .error failure⟩ :: back ∧
    ∀ exchange ∈ front, failureOf? key exchange = none

/-- What comes before and means no failure does not matter. -/
theorem ComesToUnread.cons {plan : List Part} {failure : Failure} {exchange : Exchange}
    (h : ComesToUnread key plan trace failure) (clean : failureOf? key exchange = none) :
    ComesToUnread key plan (exchange :: trace) failure := by
  obtain ⟨part, planned, front, back, rfl, before⟩ := h
  exact ⟨part, planned, exchange :: front, back, rfl, List.forall_mem_cons.mpr ⟨clean, before⟩⟩

/-- An object that the store does not fail to take is sent, unless a part of its plan cannot be read.

**Proof sketch.** What stops the sending is an exchange of it that means a failure, and of these only
the reading of a part is left. -/
theorem ok_or_unread {source : UploadSource} {outcome : Except Failure Nat}
    (run : Run (source.send key) trace outcome) (parsed : ObjectPath.parse key = .ok path)
    (follows : Follows before trace after) (works : ∀ exchange ∈ trace, exchange.uploadFails = false) :
    (∃ sent, outcome = .ok sent) ∨
      ∃ failure, outcome = .error failure ∧ ComesToUnread key source.parts trace failure := by
  cases outcome with
  | ok sent => exact .inl ⟨sent, rfl⟩
  | error failure =>
    obtain ⟨_, front, cause, back, rfl, means, clean, _⟩ := sendsOrNot_send run parsed follows
    have mem : cause ∈ front ++ cause :: back := by simp
    have transmits := run.forall_within (source.within_send key) cause mem
    rcases uploadFails_or_unread transmits means with fails | ⟨part, planned, rfl⟩
    · cases (works _ mem).symm.trans fails
    · exact .inr ⟨failure, rfl, part, planned, front, back, rfl, clean⟩

/-- What stands in the way of an upload at its first call is an object, or a failure of the store. -/
theorem present_or_uploadFails {reply : (Call.head path).Reply} {failure : Failure}
    (means : failureOf? key ⟨.head path, reply⟩ = some failure)
    (affirms : before.Affirms ⟨.head path, reply⟩) :
    before.objects path ≠ none ∨ Exchange.uploadFails ⟨.head path, reply⟩ = true := by
  rcases reply with error | size
  · rcases error with ⟨location, cause⟩ | ⟨location, cause⟩ | ⟨location, cause⟩ | ⟨location, cause⟩
    · exact nomatch means
    all_goals exact .inr rfl
  · exact .inl affirms

end Upload

namespace UploadSource

/-- **What a successful upload has done**: there was no object under its key, and now there is the one
with the bytes of its parts. -/
theorem run_upload_ok (source : UploadSource) {sent : Nat}
    (run : Run (source.upload key) trace (.ok sent)) (follows : Follows before trace after) :
    ∃ path, ObjectPath.parse key = .ok path ∧ before.objects path = none ∧ sent = source.length ∧
      after.objects = Function.update before.objects path (some (source.produced trace)) ∧
      trace.reads.map Prod.fst = source.parts := by
  cases parsed : ObjectPath.parse key with
  | error error =>
    rw [upload_eq] at run
    exact nomatch (Upload.run_whole_of_error parsed run).2
  | ok path =>
    obtain ⟨sent_eq, objects_eq, parts_eq, _⟩ := sendsOrNot_upload run parsed follows
    refine ⟨path, rfl, Option.not_isSome_iff_eq_none.mp fun present => ?_, sent_eq, objects_eq, parts_eq⟩
    obtain ⟨_, _, _, same, _⟩ := run_upload_of_present run parsed present follows
    exact nomatch same

/-- **An upload that finds no object succeeds, or comes to a part that cannot be read.**

**Proof sketch.** The first call does not stop it, since there is no object and the store does not say
that there is one. Nor does the store fail the sending. -/
theorem ok_or_unread (source : UploadSource) {outcome : Except Failure Nat}
    (run : Run (source.upload key) trace outcome) (parsed : ObjectPath.parse key = .ok path)
    (absent : before.objects path = none) (follows : FollowsTruly before trace after)
    (works : ∀ exchange ∈ trace, exchange.uploadFails = false) :
    (∃ sent, outcome = .ok sent) ∨
      ∃ failure, outcome = .error failure ∧ Upload.ComesToUnread key source.parts trace failure := by
  have promised := follows.follows
  rw [upload_eq] at run
  rcases Upload.run_whole parsed run with ⟨reply, failure, rfl, means, rfl⟩ |
    ⟨reply, sending, free, ⟨failure, rfl, sends, rfl⟩ | ⟨sent, _, _, rfl⟩⟩
  · obtain ⟨_, ⟨_, affirms⟩, _⟩ := follows
    rcases Upload.present_or_uploadFails means affirms with present | fails
    · exact absurd absent present
    · cases (works _ List.mem_cons_self).symm.trans fails
  · obtain ⟨_, later⟩ := Upload.follows_head free promised
    have works' : ∀ exchange ∈ sending, exchange.uploadFails = false :=
      fun e mem => works e (List.mem_cons_of_mem _ (List.mem_cons_of_mem _ mem))
    refine (Upload.ok_or_unread sends parsed later works').imp_right ?_
    rintro ⟨failure, same, unread⟩
    exact ⟨failure, same, (unread.cons rfl).cons free⟩
  · exact .inl ⟨sent, rfl⟩

/-- **An upload without a reason to fail succeeds.** -/
theorem exists_ok_of_unhindered (source : UploadSource) {outcome : Except Failure Nat}
    (run : Run (source.upload key) trace outcome) (parsed : ObjectPath.parse key = .ok path)
    (absent : before.objects path = none)
    (follows : FollowsTruly before trace after)
    (works : ∀ exchange ∈ trace, exchange.uploadFails = false)
    (readable : ∀ part ∈ source.parts, ∀ failure, ⟨.endRead key part, .error failure⟩ ∉ trace) :
    ∃ sent, outcome = .ok sent := by
  rcases source.ok_or_unread run parsed absent follows works with
    came | ⟨failure, _, part, planned, front, back, rfl, _⟩
  · exact came
  · exact absurd (by simp) (readable part planned failure)

end UploadSource

end GraphOffload

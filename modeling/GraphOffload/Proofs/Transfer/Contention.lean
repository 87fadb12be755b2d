import GraphOffload.Proofs.Build.Calls
import GraphOffload.Proofs.Storage.SharedStore
import GraphOffload.Proofs.Storage.Turns
import GraphOffload.Proofs.Transfer.Unhindered

/-!
# Uploads that compete for a key

Several uploads under one key of one store may be under way at the same time. Each of them asks once
whether there is an object, and puts its own, unconditionally, at some time after the answer. An upload
that asks after another one has put its object finds it, and stops. But uploads that have asked before
all put their objects, and all succeed; the last one stays. Whole it is in any case.

## Main definitions

* `GraphOffload.Upload.ShowsOnce` : a run changes an object with one exchange if it succeeds, and with
  none if it fails.
* `GraphOffload.Upload.Competing` : uploads under one key of one store that fails none of their calls.
* `GraphOffload.Upload.Contended` : what uploads that compete for a key come to.

## Main results

* `GraphOffload.Upload.exists_asked` : every upload asks first, once, whether there is an object.
* `GraphOffload.Upload.showsOnce_upload` : every upload changes one object with one exchange, or none.
* `GraphOffload.Upload.Competing.objects_of_shows` : an object that is put is there whole.
* `GraphOffload.Upload.contended` : what competing uploads come to, in any order of their calls.
* `GraphOffload.Upload.exists_competing_of_together` : uploads that take turns in memory compete.
* `GraphOffload.Upload.competing_race` : if two of them both ask before either puts, both succeed.
-/

namespace GraphOffload

open Attempting StoreState

variable {key : String} {path : ObjectPath} {trace : Trace}

/-- The last member with a property. -/
theorem exists_last_of_mem {α : Type} {P : α → Prop} {list : List α} (some_member : ∃ x ∈ list, P x) :
    ∃ front x back, list = front ++ x :: back ∧ P x ∧ ∀ y ∈ back, ¬ P y := by
  induction list with
  | nil => simp at some_member
  | cons first rest ih =>
    by_cases later : ∃ x ∈ rest, P x
    · obtain ⟨front, x, back, rfl, has, none_later⟩ := ih later
      exact ⟨first :: front, x, back, rfl, has, none_later⟩
    · obtain ⟨x, mem, has⟩ := some_member
      rcases List.mem_cons.mp mem with rfl | mem
      · exact ⟨[], x, rest, rfl, has, fun y in_rest is_later => later ⟨y, in_rest, is_later⟩⟩
      · exact absurd ⟨x, mem, has⟩ later

namespace Upload

/-! ### What shows of an upload -/

/-- A run changes an object with one exchange if it succeeds, and with none if it fails. -/
def ShowsOnce (trace : Trace) : Except Failure Nat → Prop
  | .ok _ => ∃ front write back, trace = front ++ write :: back ∧ write.Shows ∧
    (∀ exchange ∈ front, ¬ exchange.Shows) ∧ ∀ exchange ∈ back, ¬ exchange.Shows
  | .error _ => ∀ exchange ∈ trace, ¬ exchange.Shows

/-- What shows nothing before and after does not matter. -/
theorem ShowsOnce.surround {outcome : Except Failure Nat} (once : ShowsOnce trace outcome)
    {before after : Trace} (quiet : ∀ exchange ∈ before, ¬ exchange.Shows)
    (quiet' : ∀ exchange ∈ after, ¬ exchange.Shows) :
    ShowsOnce (before ++ (trace ++ after)) outcome := by
  cases outcome with
  | ok sent =>
    obtain ⟨front, write, back, rfl, shows, earlier, later⟩ := once
    exact ⟨before ++ front, write, back ++ after, by simp, shows,
      List.forall_mem_append.mpr ⟨quiet, earlier⟩, List.forall_mem_append.mpr ⟨later, quiet'⟩⟩
  | error failure =>
    exact List.forall_mem_append.mpr ⟨quiet, List.forall_mem_append.mpr ⟨once, quiet'⟩⟩

/-- What shows nothing before does not matter. -/
theorem ShowsOnce.prepend {outcome : Except Failure Nat} (once : ShowsOnce trace outcome)
    {before : Trace} (quiet : ∀ exchange ∈ before, ¬ exchange.Shows) :
    ShowsOnce (before ++ trace) outcome := by
  have surrounded := once.surround quiet (List.forall_mem_nil _)
  rwa [List.append_nil] at surrounded

/-- A call that is nothing for the store shows nothing. -/
theorem not_shows_of_none {exchange : Exchange} (means : exchange.storeEvent? = none) :
    ¬ exchange.Shows := by
  rintro ⟨event, happened, _⟩
  rw [means] at happened
  exact nomatch happened

/-- Nothing that is sent shows before it is completed. -/
theorem Sends.not_shows {plan : List Part} {exchange : Exchange} (h : Sends key plan exchange.1) :
    ¬ exchange.Shows := by
  rintro ⟨event, means, writes⟩
  exact h.not_writes means writes

/-- Neither does a question. -/
theorem not_shows_head (reply : (Call.head path).Reply) : ¬ Exchange.Shows ⟨.head path, reply⟩ := by
  rintro ⟨event, means, writes⟩
  exact not_writes_head means writes

/-- An object that is put at once shows with the one call, if it is taken. -/
theorem showsOnce_putWhole {data : Bytes} {outcome : Except Failure Nat}
    (run : Run (putWhole key data) trace outcome) (parsed : ObjectPath.parse key = .ok path) :
    ShowsOnce trace outcome := by
  obtain ⟨reply, rfl, rfl⟩ := run_putWhole run parsed
  cases reply with
  | error error => exact List.forall_mem_singleton.mpr (not_shows_of_none rfl)
  | ok done => exact ⟨[], _, [], rfl, ⟨_, rfl, trivial⟩, List.forall_mem_nil _, List.forall_mem_nil _⟩

/-- An upload in one piece shows nothing before it puts the object. -/
theorem showsOnce_inOnePiece {total : UInt64} {outcome : Except Failure Nat}
    (run : Run (inOnePiece key total) trace outcome) (parsed : ObjectPath.parse key = .ok path) :
    ShowsOnce trace outcome := by
  obtain ⟨_, rest, rfl, reading⟩ := run_attempt_ok_bind_iff.mp run
  obtain ⟨reply, rest, rfl, later⟩ := run_attempt_bind_iff.mp reading
  have quiet : ∀ exchange ∈ ([⟨.beginRead key ⟨0, 0, total⟩, ()⟩, ⟨.endRead key ⟨0, 0, total⟩, reply⟩] :
      Trace), ¬ Exchange.Shows exchange := by
    intro exchange mem
    rcases List.mem_pair.mp mem with rfl | rfl
    · exact not_shows_of_none rfl
    · exact not_shows_of_none (by cases reply <;> rfl)
  cases reply with
  | error failure =>
    obtain ⟨rfl, rfl⟩ := later
    exact quiet
  | ok data => exact (showsOnce_putWhole later parsed).prepend quiet

/-- The completion is the one exchange of an upload in parts that shows. -/
theorem showsOnce_sendAndComplete {options : TransferOptions} {total : UInt64}
    {outcome : Except Failure Nat} (run : Run (sendAndComplete options key total) trace outcome) :
    ShowsOnce trace outcome := by
  have reads : Within (Sends key (Part.plan total options.partSize))
      (beginReads key ((Part.plan total options.partSize).take options.atOnce)) :=
    within_beginReads (List.take_subset _ _)
  have within := within_sendParts key total.toNat options.atOnce {}
    (List.Subset.refl (Part.plan total options.partSize)) (List.drop_subset options.atOnce _)
  rcases run_bind_iff.mp run with ⟨failure, rfl, early⟩ | ⟨_, front, rest, rfl, begins, run'⟩
  · intro exchange mem
    exact (early.forall_within reads exchange mem).not_shows
  refine ShowsOnce.prepend ?_ fun exchange mem => (begins.forall_within reads exchange mem).not_shows
  rcases run_bind_iff.mp run' with ⟨failure, rfl, early⟩ | ⟨sent, sends, rest, rfl, sending, run''⟩
  · intro exchange mem
    exact (early.forall_within within exchange mem).not_shows
  refine ShowsOnce.prepend ?_ fun exchange mem => (sending.forall_within within exchange mem).not_shows
  obtain ⟨reply, rest, rfl, completing⟩ := run_attempt_bind_iff.mp run''
  cases reply with
  | error error =>
    obtain ⟨rfl, rfl⟩ := completing
    exact List.forall_mem_singleton.mpr (not_shows_of_none rfl)
  | ok done =>
    obtain ⟨rfl, rfl⟩ := run_pure_iff.mp completing
    exact ⟨[], _, [], rfl, ⟨_, rfl, trivial⟩, List.forall_mem_nil _, List.forall_mem_nil _⟩

/-- An upload in parts shows nothing before it is completed. -/
theorem showsOnce_inParts {options : TransferOptions} {total : UInt64} {outcome : Except Failure Nat}
    (run : Run (inParts options key total) trace outcome) (parsed : ObjectPath.parse key = .ok path) :
    ShowsOnce trace outcome := by
  rw [Upload.inParts, BlobStore.pathOf, parsed] at run
  obtain ⟨reply, rest, rfl, later⟩ := run_attempt_bind_iff.mp (run_ofExcept_bind_iff.mp run)
  have quiet : ¬ Exchange.Shows ⟨.openUpload path, reply⟩ := by
    rintro ⟨event, means, writes⟩
    cases reply <;> cases means
    exact writes
  cases reply with
  | error error =>
    obtain ⟨rfl, rfl⟩ := later
    exact List.forall_mem_singleton.mpr quiet
  | ok done =>
    rcases run_orAbort_iff.mp later with ⟨sent, rfl, run'⟩ | ⟨failure, front, reply, rfl, rfl, run'⟩
    · exact (showsOnce_sendAndComplete run').prepend (List.forall_mem_singleton.mpr quiet)
    · have aborted : ¬ Exchange.Shows ⟨.abortUpload, reply⟩ := by
        rintro ⟨event, means, writes⟩
        cases reply <;> cases means
        exact writes
      exact (showsOnce_sendAndComplete run').surround (List.forall_mem_singleton.mpr quiet)
        (List.forall_mem_singleton.mpr aborted)

/-- An object that is sent shows with one exchange, and one that is not with none. -/
theorem showsOnce_send {source : UploadSource} {outcome : Except Failure Nat}
    (run : Run (source.send key) trace outcome) (parsed : ObjectPath.parse key = .ok path) :
    ShowsOnce trace outcome := by
  cases source with
  | read area total =>
    rw [UploadSource.send] at run
    split at run
    · exact showsOnce_inParts run parsed
    · exact showsOnce_inOnePiece run parsed
  | bytes data => exact showsOnce_putWhole run parsed

/-- **Every upload changes one object with one exchange, if it succeeds, and none if it fails.** -/
theorem showsOnce_upload {source : UploadSource} {outcome : Except Failure Nat}
    (run : Run (source.upload key) trace outcome) (parsed : ObjectPath.parse key = .ok path) :
    ShowsOnce trace outcome := by
  rw [UploadSource.upload_eq] at run
  have quiet (reply : (Call.head path).Reply) (event : TransferEvent) :
      ∀ exchange ∈ ([⟨.head path, reply⟩, ⟨.notify event, ()⟩] : Trace), ¬ Exchange.Shows exchange := by
    intro exchange mem
    rcases List.mem_pair.mp mem with rfl | rfl
    · exact not_shows_head reply
    · exact not_shows_of_none rfl
  rcases run_whole parsed run with ⟨reply, failure, rfl, _, rfl⟩ |
    ⟨reply, sending, _, ⟨failure, rfl, sends, rfl⟩ | ⟨sent, rfl, sends, rfl⟩⟩
  · exact List.forall_mem_singleton.mpr (not_shows_head reply)
  · exact (showsOnce_send sends parsed).prepend (quiet reply _)
  · refine (showsOnce_send sends parsed).surround (quiet reply _) fun exchange mem => ?_
    rcases List.mem_pair.mp mem with rfl | rfl <;> exact not_shows_of_none rfl

/-- While an object is sent the store is not asked for it. -/
theorem head_not_mem_sending {source : UploadSource} {outcome : Except Failure Nat}
    (run : Run (source.send key) trace outcome) (reply : (Call.head path).Reply) :
    ⟨.head path, reply⟩ ∉ trace :=
  fun mem => (run.forall_within (source.within_send key) _ mem).elim

/-- **Every upload asks first whether there is an object, and asks no second time.**

**Proof sketch.** It ends with the answer, or goes on to tell the listener, to send and to report, none of
which asks. -/
theorem exists_asked {source : UploadSource} {outcome : Except Failure Nat}
    (run : Run (source.upload key) trace outcome) (parsed : ObjectPath.parse key = .ok path) :
    ∃ reply rest, trace = ⟨.head path, reply⟩ :: rest ∧ ∀ exchange ∈ rest, exchange.1 ≠ .head path := by
  rw [UploadSource.upload_eq] at run
  have silent {sending : Trace} {ended : Except Failure Nat} (sends : Run (source.send key) sending ended) :
      ∀ exchange ∈ sending, exchange.1 ≠ .head path := by
    rintro ⟨call, reply⟩ mem rfl
    exact head_not_mem_sending sends reply mem
  rcases run_whole parsed run with ⟨reply, _, rfl, _, _⟩ |
    ⟨reply, sending, _, ⟨_, rfl, sends, _⟩ | ⟨_, rfl, sends, _⟩⟩
  · exact ⟨reply, [], rfl, List.forall_mem_nil _⟩
  · exact ⟨reply, _, rfl, List.forall_mem_cons.mpr ⟨by simp, silent sends⟩⟩
  · refine ⟨reply, _, rfl, List.forall_mem_cons.mpr ⟨by simp, ?_⟩⟩
    exact List.forall_mem_append.mpr ⟨silent sends, by simp⟩

/-- **The answer to its question decides what becomes of an upload** in a store that fails no call. If
there is an object it makes no other call; if there is none the upload succeeds, unless a part of its
plan cannot be read.

**Proof sketch.** The question is the first call and no call of the sending (`head_not_mem_sending`), so
that it is the one of which the answer is known. What the sending comes to in such a store is
`ok_or_unread`. -/
theorem run_upload_of_asked {source : UploadSource} {outcome : Except Failure Nat}
    {before after : StoreState} (run : Run (source.upload key) trace outcome)
    (parsed : ObjectPath.parse key = .ok path) (follows : Follows before trace after)
    (works : ∀ exchange ∈ trace, exchange.uploadFails = false) {reply : (Call.head path).Reply}
    (asked : ⟨.head path, reply⟩ ∈ trace) :
    (∃ failure, failureOf? key ⟨.head path, reply⟩ = some failure ∧ trace = [⟨.head path, reply⟩] ∧
      outcome = .error failure) ∨
    failureOf? key ⟨.head path, reply⟩ = none ∧ ((∃ sent, outcome = .ok sent) ∨
      ∃ part ∈ source.parts, ∃ failure, outcome = .error failure ∧
        ⟨.endRead key part, .error failure⟩ ∈ trace) := by
  rw [UploadSource.upload_eq] at run
  rcases run_whole parsed run with ⟨_, failure, rfl, means, rfl⟩ |
    ⟨_, sending, absent, ⟨failure, rfl, sends, rfl⟩ | ⟨sent, rfl, sends, rfl⟩⟩
  · cases List.mem_singleton.mp asked
    exact .inl ⟨failure, means, rfl, rfl⟩
  · have not_asked := head_not_mem_sending sends reply
    simp only [List.mem_cons, not_asked, or_false] at asked
    rcases asked with same | same
    · cases same
      obtain ⟨_, later⟩ := follows_head absent follows
      have works' : ∀ exchange ∈ sending, exchange.uploadFails = false :=
        fun e mem => works e (List.mem_cons_of_mem _ (List.mem_cons_of_mem _ mem))
      refine .inr ⟨absent, (ok_or_unread sends parsed later works').imp_right ?_⟩
      rintro ⟨failure, same, part, planned, front, back, rfl, _⟩
      exact ⟨part, planned, failure, same, by simp⟩
    · exact nomatch same
  · have not_asked := head_not_mem_sending sends reply
    simp only [List.mem_cons, List.mem_append, not_asked, List.not_mem_nil, or_false] at asked
    rcases asked with same | same | same | same
    · cases same
      exact .inr ⟨absent, .inl ⟨sent, rfl⟩⟩
    all_goals exact nomatch same

/-- The object that an upload leaves in a store of its own is put by the one exchange that shows: there
was none before it, and there it is after it.

**Proof sketch.** An upload that shows something has succeeded, and has shown only that
(`showsOnce_upload`). So the objects are as at the start up to it, and as at the end from it on. -/
theorem objects_of_shows {source : UploadSource} {outcome : Except Failure Nat} {front back : Trace}
    {write : Exchange} {start before next final : StoreState}
    (run : Run (source.upload key) (front ++ write :: back) outcome)
    (parsed : ObjectPath.parse key = .ok path) (shows : write.Shows) (free : start.objects path = none)
    (earlier : Follows start front before) (step : Step write before next)
    (later : Follows next back final) :
    outcome = .ok source.length ∧ (source.produced (front ++ write :: back)).length = source.length ∧
      before.objects path = none ∧
      next.objects path = some (source.produced (front ++ write :: back)) := by
  have follows : Follows start (front ++ write :: back) final :=
    follows_append_iff.mpr ⟨before, earlier, next, step, later⟩
  have once := showsOnce_upload run parsed
  have came := UploadSource.sendsOrNot_upload run parsed follows
  cases outcome with
  | error failure => exact absurd shows (once write (by simp))
  | ok sent =>
    obtain ⟨_, _, _, split, _, quiet_front, quiet_back⟩ := once
    obtain ⟨rfl, _, rfl⟩ :=
      Trace.eq_of_append_cons_eq Exchange.Shows split.symm shows quiet_front quiet_back
    obtain ⟨rfl, objects_eq, parts_eq, _⟩ := came
    refine ⟨rfl, UploadSource.length_produced parts_eq, ?_, ?_⟩
    · rw [earlier.objects_eq fun e mem event means writes => quiet_front e mem ⟨event, means, writes⟩]
      exact free
    · rw [← later.objects_eq fun e mem event means writes => quiet_back e mem ⟨event, means, writes⟩,
        objects_eq, Function.update_self]

/-! ### Competing uploads -/

/-- The calls of an upload put objects under the path of its key only. -/
theorem Uploads.putsAt {call : Call} (uploads : call.Uploads key)
    (parsed : ObjectPath.parse key = .ok path) : call.PutsAt path := by
  cases call with
  | put other data => exact Except.ok.inj (uploads.symm.trans parsed)
  | openUpload other => exact Except.ok.inj (uploads.symm.trans parsed)
  | delete other => exact uploads.elim
  | submit job => exact uploads.elim
  | status jobId deadline => exact uploads.elim
  | _ => trivial

variable {ι : Type} [DecidableEq ι]

/-- Uploads under one key of one store, each of which comes to its end. Their calls are answered in any
order, the store fails none of them, and it has no object under the key at first. -/
structure Competing (key : String) (source : ι → UploadSource) (start : SharedState ι)
    (history : History ι) (after : SharedState ι) (outcome : ι → Except Failure Nat) : Prop where
  runs : ∀ user, Run ((source user).upload key) (history.own user) (outcome user)
  follows : start.Follows history after
  works : ∀ entry ∈ history, entry.2.uploadFails = false
  closed : ∀ user, start.upload user = none
  free : ∀ path, ObjectPath.parse key = .ok path → start.objects path = none

/-- What uploads that compete for a key come to. -/
structure Contended (key : String) (path : ObjectPath) (source : ι → UploadSource)
    (start : SharedState ι) (history : History ι) (after : SharedState ι)
    (outcome : ι → Except Failure Nat) : Prop where
  /-- Every upload asks first whether there is an object, and asks no second time. -/
  asks : ∀ user, ∃ reply rest, history.own user = ⟨.head path, reply⟩ :: rest ∧
    ∀ exchange ∈ rest, exchange.1 ≠ .head path
  /-- An upload that asks after another one has put its object does nothing else. -/
  late : ∀ front user reply back, history = front ++ (user, ⟨.head path, reply⟩) :: back →
    (∃ entry ∈ front, entry.2.Shows) →
      outcome user = .error (.alreadyExists key) ∧ history.own user = [⟨.head path, reply⟩]
  /-- An upload that asks before succeeds, unless a part of its plan cannot be read. -/
  early : ∀ front user reply back, history = front ++ (user, ⟨.head path, reply⟩) :: back →
    (∀ entry ∈ front, ¬ entry.2.Shows) →
      (∃ sent, outcome user = .ok sent) ∨ ∃ part ∈ (source user).parts, ∃ failure,
        outcome user = .error failure ∧ ⟨.endRead key part, .error failure⟩ ∈ history.own user
  /-- An upload that succeeds puts its object once, and one that fails puts none. -/
  once : ∀ user, ShowsOnce (history.own user) (outcome user)
  /-- The object that is put last stays, whole. -/
  last : ∀ front user write back, history = front ++ (user, write) :: back → write.Shows →
    (∀ entry ∈ back, ¬ entry.2.Shows) →
      outcome user = .ok (source user).length ∧
      ((source user).produced (history.own user)).length = (source user).length ∧
      after.objects =
        Function.update start.objects path (some ((source user).produced (history.own user)))
  /-- If one upload alone succeeds, its object stays. -/
  sole : ∀ user sent, outcome user = .ok sent →
    (∀ other, other ≠ user → ∀ sent, outcome other ≠ .ok sent) → after.objects =
      Function.update start.objects path (some ((source user).produced (history.own user)))
  /-- If none succeeds nothing has changed. -/
  unchanged : (∀ user sent, outcome user ≠ .ok sent) → after.objects = start.objects

namespace Competing

variable {source : ι → UploadSource} {start after : SharedState ι} {history : History ι}
  {outcome : ι → Except Failure Nat} {user : ι}

/-- All calls of competing uploads put objects under the path of the key only. -/
theorem putsAt (competing : Competing key source start history after outcome)
    (parsed : ObjectPath.parse key = .ok path) : ∀ entry ∈ history, entry.2.1.PutsAt path := by
  rintro ⟨user, exchange⟩ mem
  have uploads := (competing.runs user).forall_within (within_upload (source user)) exchange
    (History.mem_own.mpr mem)
  exact Uploads.putsAt uploads parsed

/-- At first no upload in parts is open. -/
theorem targets (competing : Competing key source start history after outcome) (user : ι) :
    (start.view user).Targets path := by
  intro upload is_open
  exact nomatch (competing.closed user).symm.trans is_open

/-- No call of an upload is failed by the store. -/
theorem works_own (competing : Competing key source start history after outcome) (user : ι) :
    ∀ exchange ∈ history.own user, exchange.uploadFails = false :=
  fun _ mem => competing.works _ (History.mem_own.mp mem)

/-- What an upload has of the history is what it would have of a store of its own. -/
theorem exists_own (competing : Competing key source start history after outcome)
    (parsed : ObjectPath.parse key = .ok path) (user : ι) :
    ∃ own, Follows (start.view user) (history.own user) own := by
  obtain ⟨own, follows, _⟩ := competing.follows.exists_own (competing.putsAt parsed)
    competing.targets (Mirrors.refl (start.view user))
  exact ⟨own, follows⟩

/-- **An object that is put is there whole**, right after the call that puts it.

**Proof sketch.** The upload that puts it is looked at as if it had a store of its own. There the object
appears with this very call, and what appears there appears in the shared store as well. -/
theorem objects_of_shows (competing : Competing key source start history after outcome)
    (parsed : ObjectPath.parse key = .ok path) {front back : History ι} {write : Exchange}
    (split : history = front ++ (user, write) :: back) (shows : write.Shows) :
    outcome user = .ok (source user).length ∧
      ((source user).produced (history.own user)).length = (source user).length ∧
      ∃ here, start.Follows (front ++ [(user, write)]) here ∧ here.Follows back after ∧
        here.objects path = some ((source user).produced (history.own user)) := by
  have own_eq : history.own user = front.own user ++ write :: back.own user := by
    rw [split, History.own_append, History.own_cons_self]
  have run := competing.runs user
  have follows := competing.follows
  have puts := competing.putsAt parsed
  rw [split] at follows puts
  obtain ⟨puts_front, puts_rest⟩ := List.forall_mem_append.mp puts
  obtain ⟨puts_write, puts_back⟩ := List.forall_mem_cons.mp puts_rest
  obtain ⟨middle, earlier, here, step, later⟩ := SharedState.follows_append_iff.mp follows
  have targets := (earlier.grows puts_front competing.targets).2.2
  obtain ⟨before, own_front, mirrors⟩ :=
    earlier.exists_own puts_front competing.targets (Mirrors.refl (start.view user))
  obtain ⟨next, own_step, mirrors', same⟩ := step.exists_own puts_write (targets user) mirrors
  obtain ⟨final, own_back, _⟩ :=
    later.exists_own puts_back (step.targets puts_write targets) mirrors'
  rw [own_eq] at run ⊢
  obtain ⟨ended, length_eq, unput, put⟩ :=
    Upload.objects_of_shows run parsed shows (competing.free path parsed) own_front own_step own_back
  have changed : next.objects path ≠ before.objects path := by
    rw [put, unput]
    exact Option.some_ne_none _
  refine ⟨ended, length_eq, here, ?_, later, (same changed).trans put⟩
  exact SharedState.follows_append_iff.mpr ⟨middle, earlier, here, step, rfl⟩

/-- The answer to its question decides what becomes of a competing upload. -/
theorem outcome_of_asked (competing : Competing key source start history after outcome)
    (parsed : ObjectPath.parse key = .ok path) {front back : History ι}
    {reply : (Call.head path).Reply}
    (split : history = front ++ (user, ⟨.head path, reply⟩) :: back) :
    (∃ failure, failureOf? key ⟨.head path, reply⟩ = some failure ∧
      history.own user = [⟨.head path, reply⟩] ∧ outcome user = .error failure) ∨
    failureOf? key ⟨.head path, reply⟩ = none ∧ ((∃ sent, outcome user = .ok sent) ∨
      ∃ part ∈ (source user).parts, ∃ failure, outcome user = .error failure ∧
        ⟨.endRead key part, .error failure⟩ ∈ history.own user) := by
  obtain ⟨own, follows⟩ := competing.exists_own parsed user
  have asked : ⟨.head path, reply⟩ ∈ history.own user := History.mem_own.mpr (by rw [split]; simp)
  exact run_upload_of_asked (competing.runs user) parsed follows (competing.works_own user) asked

/-- An upload that asks after an object was put finds one. -/
theorem exists_size_of_shows (competing : Competing key source start history after outcome)
    (parsed : ObjectPath.parse key = .ok path) {front back : History ι}
    {reply : (Call.head path).Reply} (split : history = front ++ (user, ⟨.head path, reply⟩) :: back)
    (put : ∃ entry ∈ front, entry.2.Shows) : ∃ size, reply = .ok size := by
  have puts := competing.putsAt parsed
  obtain ⟨⟨other, write⟩, mem, shows⟩ := put
  obtain ⟨earlier, between, rfl⟩ := List.append_of_mem mem
  rw [List.append_assoc, List.cons_append] at split
  obtain ⟨_, _, here, reached, later, object⟩ := competing.objects_of_shows parsed split shows
  rw [split, List.append_cons] at puts
  obtain ⟨puts_earlier, puts_later⟩ := List.forall_mem_append.mp puts
  obtain ⟨puts_between, _⟩ := List.forall_mem_append.mp puts_later
  have targets := (reached.grows puts_earlier competing.targets).2.2
  obtain ⟨asked, waiting, _, step, _⟩ := SharedState.follows_append_iff.mp later
  have present := (waiting.grows puts_between targets).2.1 (by rw [object]; exact Option.some_ne_none _)
  have works := competing.works (user, ⟨.head path, reply⟩) (by rw [split]; simp)
  rcases reply with error | size
  · cases error with
    | notFound location cause =>
      obtain ⟨_, missing⟩ := (step_iff rfl).mp step.effect
      exact absurd missing present
    | _ => exact nomatch works
  · exact ⟨size, rfl⟩

/-- An upload that asks before any object was put finds none. -/
theorem failureOf?_eq_none_of_quiet (competing : Competing key source start history after outcome)
    (parsed : ObjectPath.parse key = .ok path) {front back : History ι}
    {reply : (Call.head path).Reply} (split : history = front ++ (user, ⟨.head path, reply⟩) :: back)
    (quiet : ∀ entry ∈ front, ¬ entry.2.Shows) :
    failureOf? key ⟨.head path, reply⟩ = none := by
  have follows := competing.follows
  have works := competing.works (user, ⟨.head path, reply⟩) (by rw [split]; simp)
  rw [split] at follows
  obtain ⟨asked, waiting, _, step, _⟩ := SharedState.follows_append_iff.mp follows
  rcases reply with error | size
  · cases error with
    | notFound location cause => rfl
    | _ => exact nomatch works
  · have missing : asked.objects path = none := by
      rw [waiting.objects_eq quiet]
      exact competing.free path parsed
    exact absurd missing step.affirms

/-- **The object that is put last stays**, and the objects elsewhere are what they were. -/
theorem objects_eq_of_last (competing : Competing key source start history after outcome)
    (parsed : ObjectPath.parse key = .ok path) {front back : History ι} {write : Exchange}
    (split : history = front ++ (user, write) :: back) (shows : write.Shows)
    (quiet : ∀ entry ∈ back, ¬ entry.2.Shows) : after.objects =
      Function.update start.objects path (some ((source user).produced (history.own user))) := by
  obtain ⟨_, _, here, _, later, object⟩ := competing.objects_of_shows parsed split shows
  obtain ⟨elsewhere, _⟩ := competing.follows.grows (competing.putsAt parsed) competing.targets
  funext other
  by_cases at_path : other = path
  · obtain rfl := at_path
    rw [Function.update_self, later.objects_eq quiet, object]
  · rw [Function.update_of_ne at_path, elsewhere other at_path]

/-- An upload puts an object exactly if it succeeds. -/
theorem exists_ok_iff (competing : Competing key source start history after outcome)
    (parsed : ObjectPath.parse key = .ok path) :
    (∃ sent, outcome user = .ok sent) ↔ ∃ write, (user, write) ∈ history ∧ write.Shows := by
  have once := showsOnce_upload (competing.runs user) parsed
  constructor
  · rintro ⟨sent, ended⟩
    rw [ended] at once
    obtain ⟨front, write, back, split, shows, _⟩ := once
    exact ⟨write, History.mem_own.mp (by rw [split]; simp), shows⟩
  · rintro ⟨write, mem, shows⟩
    cases ended : outcome user with
    | ok sent => exact ⟨sent, rfl⟩
    | error failure =>
      rw [ended] at once
      exact absurd shows (once write (History.mem_own.mpr mem))

end Competing

/-- **What uploads that compete for a key come to**, in whatever order the store answers their calls.
Under a key without a path nothing is done. Otherwise each of them asks first, once, and is refused
exactly if another one has put its object before it asks; the others succeed as far as their parts can be
read. The object that stays is that of one upload, whole: the one that has succeeded, or of several the
one that put its object last.

**Proof sketch.** Each upload is looked at as if it had a store of its own, where it is all or nothing.
The shared store has, after a call that puts an object, just this object, and as none is taken away a
question that comes later finds one. -/
theorem contended {source : ι → UploadSource} {start after : SharedState ι} {history : History ι}
    {outcome : ι → Except Failure Nat}
    (competing : Competing key source start history after outcome) :
    (∀ error, ObjectPath.parse key = .error error → after.objects = start.objects ∧
      ∀ user, outcome user = .error (.transfer key (.path error))) ∧
    ∀ path, ObjectPath.parse key = .ok path →
      Contended key path source start history after outcome := by
  refine ⟨fun error unparsed => ?_, fun path parsed => ?_⟩
  · have pathless (user : ι) :
        history.own user = [] ∧ outcome user = .error (.transfer key (.path error)) := by
      have run := competing.runs user
      rw [UploadSource.upload_eq] at run
      exact run_whole_of_error unparsed run
    refine ⟨competing.follows.objects_eq fun entry mem => ?_, fun user => (pathless user).2⟩
    have came := History.mem_own.mpr mem
    rw [(pathless entry.1).1] at came
    exact nomatch came
  -- a key with a path: what each upload is answered decides what becomes of it
  refine ⟨fun user => exists_asked (competing.runs user) parsed, ?_, ?_,
    fun user => showsOnce_upload (competing.runs user) parsed, ?_, ?_, ?_⟩
  · rintro front user reply back split put
    obtain ⟨size, rfl⟩ := competing.exists_size_of_shows parsed split put
    rcases competing.outcome_of_asked parsed split with ⟨failure, means, alone, ended⟩ | ⟨absent, _⟩
    · obtain rfl := Option.some.inj means
      exact ⟨ended, alone⟩
    · exact nomatch absent
  · rintro front user reply back split quiet
    have absent := competing.failureOf?_eq_none_of_quiet parsed split quiet
    rcases competing.outcome_of_asked parsed split with ⟨failure, means, _⟩ | ⟨_, came⟩
    · exact nomatch absent.symm.trans means
    · exact came
  · intro front user write back split shows quiet
    obtain ⟨ended, length_eq, _⟩ := competing.objects_of_shows parsed split shows
    exact ⟨ended, length_eq, competing.objects_eq_of_last parsed split shows quiet⟩
  · intro user sent ended others
    obtain ⟨write, mem, shows⟩ := (competing.exists_ok_iff parsed).mp ⟨sent, ended⟩
    obtain ⟨front, ⟨other, put⟩, back, split, shows', quiet⟩ :=
      exists_last_of_mem (P := fun entry => entry.2.Shows) ⟨_, mem, shows⟩
    have ended' := (competing.objects_of_shows parsed split shows').1
    by_cases is_user : other = user
    · obtain rfl := is_user
      exact competing.objects_eq_of_last parsed split shows' quiet
    · exact absurd ended' (others other is_user _)
  · intro none_ok
    refine competing.follows.objects_eq fun entry mem shows => ?_
    obtain ⟨sent, ended⟩ := (competing.exists_ok_iff parsed).mpr ⟨entry.2, mem, shows⟩
    exact none_ok entry.1 sent ended

/-! ### Uploads in memory that take turns -/

/-- Uploads that are about to begin, each in a world of its own, on objects that all of them work on. -/
def atStart {σ : ι → Type} (key : String) (source : ι → UploadSource) (worlds : (i : ι) → World (σ i))
    (objects : ObjectMap) : ((i : ι) → Session (World (σ i)) (Except Failure Nat)) × ObjectMap :=
  (fun user => { program := ((source user).upload key).run, own := worlds user }, objects)

/-- **Uploads that take turns in worlds in memory compete**, whatever the order of their turns, when all
of them have come to their ends and no call was failed.

**Proof sketch.** Worlds in memory that take turns show a store that is shared
(`World.follows_together`). What passed in the session of each user is then a run of its upload
(`comesFrom_together`). -/
theorem exists_competing_of_together {σ : ι → Type} [∀ i, Cursor (σ i)] {source : ι → UploadSource}
    {worlds : (i : ι) → World (σ i)} {objects : ObjectMap} {turns : List ι}
    {outcome : ι → Except Failure Nat} (idle : ∀ user, (worlds user).store.upload = none)
    (honest : ∀ user, (worlds user).store.Honest)
    (free : ∀ path, ObjectPath.parse key = .ok path → objects.get? path = none) :
    let after := together (fun _ => World.surroundings) (atStart key source worlds objects) turns
    (∀ user, (after.1 user).program = .done (outcome user)) →
    (∀ user, ∀ exchange ∈ (after.1 user).trace, exchange.uploadFails = false) →
      ∃ history final,
        Competing key source ⟨objects.get?, fun _ => none⟩ history final outcome ∧
        (∀ user, (after.1 user).trace = history.own user) ∧
        ∀ path, after.2.get? path = final.objects path := by
  intro after ended works
  have shown : World.ShowTogether (atStart key source worlds objects)
      ⟨objects.get?, fun _ => none⟩ := by
    refine ⟨fun _ => rfl, fun user => ⟨fun _ => rfl, ?_, honest user⟩⟩
    change FaultyStore.Holds _ (worlds user).store.upload none
    rw [idle user]
    trivial
  obtain ⟨history, final, follows, shown', traces⟩ := World.follows_together shown turns
  have begins (user : ι) : ((atStart key source worlds objects).1 user).ComesFrom
      ((source user).upload key).run := fun _ _ run => run
  refine ⟨history, final, ⟨fun user => ?_, follows, ?_, fun _ => rfl, free⟩, traces,
    shown'.objects⟩
  · have run := (comesFrom_together begins turns user).run (ended user)
    rwa [traces user] at run
  · rintro ⟨user, exchange⟩ mem
    refine works user exchange ?_
    rw [traces user]
    exact History.mem_own.mpr mem

/-! ### Two uploads that both ask first -/

/-- The calls of an upload of bytes at hand that finds no object. -/
def calls (key : String) (path : ObjectPath) (data : Bytes) : Trace :=
  [⟨.head path, .error (.notFound path.text "")⟩, ⟨.notify (.started key data.length), ()⟩,
    ⟨.put path data, .ok ()⟩, ⟨.count (.moved .upload data.length), ()⟩,
    ⟨.notify (.complete key data.length), ()⟩]

/-- An upload of bytes at hand has these calls. -/
theorem run_calls (parsed : ObjectPath.parse key = .ok path) (data : Bytes) :
    Run ((UploadSource.bytes data).upload key) (calls key path data) (.ok data.length) := by
  have path_eq : BlobStore.pathOf key = .ofExcept (.ok path) := by
    rw [BlobStore.pathOf, parsed]
    rfl
  simp only [UploadSource.upload, blob, whole, ensureAbsent, BlobStore.contains, BlobStore.head,
    putWhole, path_eq]
  exact .ask (.ask (.ask (.ask (.ask (.done _)))))

/-- Two uploads of bytes at hand take turns, so that both ask before either puts. -/
def race (key : String) (path : ObjectPath) (data : Bool → Bytes) : History Bool :=
  ((calls key path (data false)).zip (calls key path (data true))).flatMap fun (first, second) =>
    [(false, first), (true, second)]

/-- A store without objects, and without open uploads. -/
def emptyStore : SharedState Bool := ⟨fun _ => none, fun _ => none⟩

/-- The store after both have put their objects. -/
def raced (path : ObjectPath) (data : Bool → Bytes) : SharedState Bool :=
  { emptyStore with objects := Function.update emptyStore.objects path (some (data true)) }

/-- A call that is nothing for the store leaves it as it is. -/
theorem step_of_none {ι : Type} {user : ι} {exchange : Exchange} {s : SharedState ι}
    (means : exchange.storeEvent? = none) (affirms : (s.view user).Affirms exchange) :
    SharedState.Step user exchange s s :=
  ⟨(step_iff_eq means).mpr rfl, affirms, fun _ _ => rfl⟩

/-- Both uploads succeed, and the object of the second one stays.

**Proof sketch.** The calls of each are those of an upload that finds no object. Two of them change the
objects, and the second one of these puts its own in place of the other. -/
theorem competing_race (parsed : ObjectPath.parse key = .ok path) (data : Bool → Bytes) :
    Competing key (fun user => .bytes (data user)) emptyStore (race key path data) (raced path data)
      fun user => .ok (data user).length where
  runs user := by
    have own_eq : (race key path data).own user = calls key path (data user) := by
      cases user <;> rfl
    rw [own_eq]
    exact run_calls parsed (data user)
  follows := by
    have asks (user : Bool) : SharedState.Step user ⟨.head path, .error (.notFound path.text "")⟩
        emptyStore emptyStore := by
      have missed : Effect (emptyStore.view user) (emptyStore.view user) (.missed path) := ⟨rfl, rfl⟩
      exact ⟨(step_iff rfl).mpr missed, trivial, fun _ _ => rfl⟩
    have puts (user : Bool) (s : SharedState Bool) (bytes : Bytes) :
        SharedState.Step user ⟨.put path bytes, .ok ()⟩ s
          { s with objects := Function.update s.objects path (some bytes) } := by
      have replaced : Effect (s.view user) ((s.view user).set path (some bytes))
        (.replaced path (some bytes)) := rfl
      exact ⟨(step_iff rfl).mpr replaced, trivial, fun _ _ => rfl⟩
    refine ⟨_, asks false, _, asks true, _, step_of_none rfl trivial, _, step_of_none rfl trivial,
      _, puts false _ _, _, puts true _ _, _, step_of_none rfl trivial, _, step_of_none rfl trivial,
      _, step_of_none rfl trivial, _, step_of_none rfl trivial, ?_⟩
    exact congrArg (fun objects => (⟨objects, emptyStore.upload⟩ : SharedState Bool))
      (Function.update_idem ..).symm
  works := by simp [race, calls, Exchange.uploadFails]
  closed _ := rfl
  free _ _ := rfl

/-- The bytes of two uploads. -/
def twoBytes (user : Bool) : Bytes := cond user [98] [97]

/-- Two uploads of one byte each that both ask first. -/
theorem contended_race :
    Competing "k" (fun user => .bytes (twoBytes user)) emptyStore (race "k" ⟨["k"]⟩ twoBytes)
      (raced ⟨["k"]⟩ twoBytes) (fun user => .ok (twoBytes user).length) ∧
    Contended "k" ⟨["k"]⟩ (fun user => .bytes (twoBytes user)) emptyStore (race "k" ⟨["k"]⟩ twoBytes)
      (raced ⟨["k"]⟩ twoBytes) fun user => .ok (twoBytes user).length := by
  have parsed : ObjectPath.parse "k" = .ok ⟨["k"]⟩ := by decide +kernel
  have competing := competing_race parsed twoBytes
  exact ⟨competing, (contended competing).2 _ parsed⟩

/-- Of two uploads that compete for a key both may succeed. -/
theorem not_at_most_one_ok :
    ¬ ∀ (source : Bool → UploadSource) (start : SharedState Bool) (history : History Bool)
      (after : SharedState Bool) (outcome : Bool → Except Failure Nat),
      Competing "k" source start history after outcome →
        ¬ ((∃ sent, outcome false = .ok sent) ∧ ∃ sent, outcome true = .ok sent) := by
  intro at_most_one
  have parsed : ObjectPath.parse "k" = .ok ⟨["k"]⟩ := by decide +kernel
  exact at_most_one _ _ _ _ _ (competing_race parsed twoBytes) ⟨⟨_, rfl⟩, _, rfl⟩

end Upload

end GraphOffload

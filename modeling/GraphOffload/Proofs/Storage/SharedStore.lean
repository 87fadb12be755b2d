import GraphOffload.Proofs.Storage.Promises

/-!
# One store with several users

Several programs use one store at the same time. All of them see the same objects, each has an upload in
parts of its own, and the store answers their calls one after the other, in any order. What it answers to
one of them is in general not what it would answer if that one were alone. But as long as all of them put
objects under one path only and take none away, each of them may be looked at as if it were: its calls
are answered as by a store of its own, which has under the path what this user put there last.

## Main definitions

* `GraphOffload.History` : what passed between a store and its users, in the order of the replies.
* `GraphOffload.SharedState` : the objects that all users see, and the upload of each.
* `GraphOffload.SharedState.Step`, `GraphOffload.SharedState.Follows` : what an exchange and a history do
  to a store that keeps its promises to every user and says the truth about its objects.
* `GraphOffload.Call.PutsAt` : calls that put objects under one path only and take none away.
* `GraphOffload.StoreState.Mirrors` : a store of one's own in place of the shared one.

## Main results

* `GraphOffload.StoreState.Mirrors.effect` : an event has the same effect on both.
* `GraphOffload.SharedState.Follows.exists_own` : what a user has of a history is what it would have of a
  store of its own.
-/

namespace GraphOffload

open StoreState

/-! ### Histories -/

/-- What passed between a store and its users, in the order of the replies. -/
abbrev History (ι : Type) := List (ι × Exchange)

namespace History

variable {ι : Type} [DecidableEq ι] {user other : ι} {exchange : Exchange} {front back : History ι}

/-- What passed between the store and one of its users. -/
def own (user : ι) (history : History ι) : Trace :=
  history.filterMap fun entry => if entry.1 = user then some entry.2 else none

/-- In an empty history nobody made a call. -/
@[simp] theorem own_nil : own user [] = [] := rfl

/-- A call of the user is the first of the user's own. -/
@[simp] theorem own_cons_self : own user ((user, exchange) :: back) = exchange :: own user back :=
  List.filterMap_cons_some (if_pos rfl)

/-- A call of somebody else is none of the user's own. -/
theorem own_cons_of_ne (differs : other ≠ user) :
    own user ((other, exchange) :: back) = own user back :=
  List.filterMap_cons_none (if_neg differs)

/-- A user's own calls in two histories are those in each. -/
@[simp] theorem own_append : own user (front ++ back) = own user front ++ own user back :=
  List.filterMap_append

/-- A user's own calls are those in the history that are marked with the user. -/
theorem mem_own {history : History ι} : exchange ∈ own user history ↔ (user, exchange) ∈ history := by
  rw [own, List.mem_filterMap]
  constructor
  · rintro ⟨⟨other, came⟩, mem, same⟩
    dsimp only at same
    split at same
    · rename_i is_user
      obtain rfl := Option.some.inj same
      exact is_user ▸ mem
    · exact nomatch same
  · intro mem
    exact ⟨_, mem, if_pos rfl⟩

end History

/-! ### The shared store -/

/-- The objects that all users see, and the upload in parts that each of them has open. -/
structure SharedState (ι : Type) where
  objects : ObjectPath → Option Bytes
  upload : ι → Option PendingUpload

namespace SharedState

variable {ι : Type}

/-- The store as one of its users has it. -/
def view (s : SharedState ι) (user : ι) : StoreState := ⟨s.objects, s.upload user⟩

/-- What an exchange with one user does to a store that keeps its promises and says the truth about its
objects. -/
structure Step (user : ι) (exchange : Exchange) (s s' : SharedState ι) : Prop where
  effect : StoreState.Step exchange (s.view user) (s'.view user)
  affirms : (s.view user).Affirms exchange
  /-- The uploads of the others are none of its business. -/
  others : ∀ other, other ≠ user → s'.upload other = s.upload other

/-- What a history does to such a store. -/
def Follows (before : SharedState ι) : History ι → SharedState ι → Prop
  | [], after => after = before
  | entry :: rest, after => ∃ middle, Step entry.1 entry.2 before middle ∧ middle.Follows rest after

/-- What a history does is done part by part. -/
theorem follows_append_iff {front back : History ι} {s s' : SharedState ι} :
    s.Follows (front ++ back) s' ↔ ∃ middle, s.Follows front middle ∧ middle.Follows back s' := by
  induction front generalizing s with
  | nil =>
    constructor
    · intro follows
      exact ⟨s, rfl, follows⟩
    · rintro ⟨_, rfl, follows⟩
      exact follows
  | cons entry rest ih =>
    constructor
    · rintro ⟨first, step, later⟩
      obtain ⟨middle, earlier, last⟩ := ih.mp later
      exact ⟨middle, ⟨first, step, earlier⟩, last⟩
    · rintro ⟨middle, ⟨first, step, earlier⟩, last⟩
      exact ⟨first, step, ih.mpr ⟨middle, earlier, last⟩⟩

end SharedState

/-! ### Objects under one path -/

variable {path : ObjectPath}

/-- The exchange changes an object, or may do so. -/
def Exchange.Shows (exchange : Exchange) : Prop :=
  ∃ event, exchange.storeEvent? = some event ∧ event.Writes

/-- The call puts objects under one path only, and takes none away. -/
def Call.PutsAt (path : ObjectPath) : Call → Prop
  | .put other _ | .openUpload other => other = path
  | .delete _ | .submit _ | .status .. => False
  | _ => True

/-- So does the event. -/
def StoreEvent.PutsAt (path : ObjectPath) : StoreEvent → Prop
  | .replaced other object => other = path ∧ object ≠ none
  | .opened other => other = path
  | .served => False
  | _ => True

/-- What such a call is for a store is such an event.

**Proof sketch.** By the call and its reply: which event they are is known then, and it is one under the
path, as the call is. -/
theorem Call.PutsAt.event {exchange : Exchange} (puts : exchange.1.PutsAt path) {event : StoreEvent}
    (means : exchange.storeEvent? = some event) : event.PutsAt path := by
  obtain ⟨call, reply⟩ := exchange
  cases call with
  | put other data =>
    cases reply with
    | error error => exact nomatch means
    | ok done =>
      cases means
      exact ⟨puts, Option.some_ne_none data⟩
  | openUpload other =>
    cases reply with
    | error error => exact nomatch means
    | ok done =>
      cases means
      exact puts
  | delete other => exact puts.elim
  | submit job => exact puts.elim
  | status jobId deadline => exact puts.elim
  | head other =>
    rcases reply with error | size
    · cases error with
      | notFound location cause =>
        cases means
        trivial
      | _ => exact nomatch means
    · exact nomatch means
  | beginPart part data =>
    cases means
    trivial
  | endPart part => cases reply <;> cases means <;> trivial
  | completeUpload | abortUpload =>
    cases reply with
    | error error => exact nomatch means
    | ok done =>
      cases means
      trivial
  | _ => exact nomatch means

namespace StoreState

/-- An open upload is for an object under the path. -/
def Targets (path : ObjectPath) (s : StoreState) : Prop :=
  ∀ upload, s.upload = some upload → upload.path = path

variable {s s' own : StoreState} {event : StoreEvent}

/-- An upload that is gone on with stays one for the same object. -/
theorem Targets.map (targets : s.Targets path) {next : PendingUpload → PendingUpload}
    (same_path : ∀ upload, (next upload).path = upload.path) :
    ({ s with upload := s.upload.map next } : StoreState).Targets path := by
  intro upload is_upload
  obtain ⟨earlier, is_earlier, rfl⟩ := Option.map_eq_some_iff.mp is_upload
  rw [same_path, targets earlier is_earlier]

/-- What such an event leaves: only the object under the path may have changed, and it is there if it
was there before. -/
structure Grows (path : ObjectPath) (s s' : StoreState) : Prop where
  elsewhere : ∀ other, other ≠ path → s'.objects other = s.objects other
  present : s.objects path ≠ none → s'.objects path ≠ none
  targets : s'.Targets path

/-- **An upload under one path lets the objects grow**: it changes no other object, and takes none away.

**Proof sketch.** Only two events change objects: one puts the object of the path at once, the other
completes the upload that is open, which is one for the path. -/
theorem Effect.grows (puts : event.PutsAt path) (targets : s.Targets path) (effect : Effect s s' event) :
    Grows path s s' := by
  cases event with
  | missed other =>
    obtain ⟨rfl, _⟩ := effect
    exact ⟨fun _ _ => rfl, id, targets⟩
  | replaced other object =>
    obtain ⟨rfl, some_object⟩ := puts
    cases effect
    refine ⟨fun other differs => ?_, fun _ => ?_, targets⟩
    · exact Function.update_of_ne differs _ _
    · rwa [set_objects_apply, if_pos rfl]
  | opened other =>
    cases effect
    refine ⟨fun _ _ => rfl, id, fun upload is_upload => ?_⟩
    obtain rfl := Option.some.inj is_upload
    exact puts
  | begun part data =>
    cases effect
    exact ⟨fun _ _ => rfl, id, targets.map fun _ => rfl⟩
  | acknowledged part =>
    cases effect
    exact ⟨fun _ _ => rfl, id, targets.map fun _ => rfl⟩
  | lost part =>
    cases effect
    exact ⟨fun _ _ => rfl, id, targets.map fun _ => rfl⟩
  | completed =>
    cases pending : s.upload with
    | none =>
      simp only [Effect, pending] at effect
      obtain rfl := effect
      exact ⟨fun _ _ => rfl, id, targets⟩
    | some upload =>
      simp only [Effect, pending] at effect
      obtain ⟨object, _, rfl⟩ := effect
      obtain rfl := targets upload pending
      refine ⟨fun other differs => ?_, fun _ => ?_, nofun⟩
      · exact Function.update_of_ne differs _ _
      · simp [set]
  | aborted =>
    cases effect
    exact ⟨fun _ _ => rfl, id, nofun⟩
  | served => exact puts.elim

/-! ### A store of one's own -/

/-- A store of one's own in place of a shared one: it has the same open upload and the same objects, but
under the path it has perhaps none where the shared one has one, or another one. -/
structure Mirrors (path : ObjectPath) (shared own : StoreState) : Prop where
  upload : own.upload = shared.upload
  elsewhere : ∀ other, other ≠ path → own.objects other = shared.objects other
  present : own.objects path ≠ none → shared.objects path ≠ none

/-- A state mirrors itself. -/
theorem Mirrors.refl (s : StoreState) : Mirrors path s s := ⟨rfl, fun _ _ => rfl, id⟩

/-- What others do under the path is nothing for a store of one's own. -/
theorem Mirrors.of_grows (mirrors : Mirrors path s own)
    (elsewhere : ∀ other, other ≠ path → s'.objects other = s.objects other)
    (present : s.objects path ≠ none → s'.objects path ≠ none)
    (same_upload : s'.upload = s.upload) : Mirrors path s' own where
  upload := mirrors.upload.trans same_upload.symm
  elsewhere other differs := (mirrors.elsewhere other differs).trans (elsewhere other differs).symm
  present has := present (mirrors.present has)

/-- An object that is put under the path is there in both stores. -/
theorem Mirrors.set (mirrors : Mirrors path s own) {object : Option Bytes} (some_object : object ≠ none) :
    Mirrors path (s.set path object) (own.set path object) where
  upload := mirrors.upload
  elsewhere other differs := by
    rw [set_objects_apply, set_objects_apply, if_neg differs, if_neg differs]
    exact mirrors.elsewhere other differs
  present _ := by rwa [set_objects_apply, if_pos rfl]

/-- Whatever becomes of the upload becomes of it in both stores. -/
theorem Mirrors.withUpload (mirrors : Mirrors path s own) (upload : Option PendingUpload) :
    Mirrors path { s with upload := upload } { own with upload := upload } :=
  ⟨rfl, mirrors.elsewhere, mirrors.present⟩

/-- **An event has the same effect on both stores**, and if it shows in one's own, it shows in both.

**Proof sketch.** One case for each kind of event. Only two of them touch an object, which is then the
same in both; and an object that the shared store has not, one's own has not either. -/
theorem Mirrors.effect (mirrors : Mirrors path s own) (puts : event.PutsAt path)
    (targets : s.Targets path) (effect : Effect s s' event) :
    ∃ own', Effect own own' event ∧ Mirrors path s' own' ∧
      (own'.objects path ≠ own.objects path → s'.objects path = own'.objects path) := by
  have same_upload := mirrors.upload
  cases event with
  | missed other =>
    obtain ⟨rfl, missing⟩ := effect
    refine ⟨own, ⟨rfl, ?_⟩, mirrors, fun changed => absurd rfl changed⟩
    -- nothing is under the path in the shared store, so that the other one has nothing there either
    by_cases at_path : other = path
    · obtain rfl := at_path
      by_contra has
      exact mirrors.present has missing
    · rw [mirrors.elsewhere other at_path, missing]
  | replaced other object =>
    obtain ⟨rfl, some_object⟩ := puts
    cases effect
    refine ⟨own.set other object, rfl, mirrors.set some_object, fun _ => ?_⟩
    rw [set_objects_apply, set_objects_apply, if_pos rfl, if_pos rfl]
  | opened other =>
    cases effect
    exact ⟨_, rfl, mirrors.withUpload _, fun changed => absurd rfl changed⟩
  | begun part data =>
    cases effect
    rw [← same_upload]
    exact ⟨_, rfl, mirrors.withUpload _, fun changed => absurd rfl changed⟩
  | acknowledged part =>
    cases effect
    rw [← same_upload]
    exact ⟨_, rfl, mirrors.withUpload _, fun changed => absurd rfl changed⟩
  | lost part =>
    cases effect
    rw [← same_upload]
    exact ⟨_, rfl, mirrors.withUpload _, fun changed => absurd rfl changed⟩
  | completed =>
    cases pending : s.upload with
    | none =>
      simp only [Effect, pending] at effect
      obtain rfl := effect
      refine ⟨own, ?_, mirrors, fun changed => absurd rfl changed⟩
      simp only [Effect, same_upload, pending]
    | some upload =>
      simp only [Effect, pending] at effect
      obtain ⟨object, whole, rfl⟩ := effect
      -- the bytes come from the open upload, which both stores have; so both get the same object
      obtain rfl := targets upload pending
      refine ⟨{ own.set upload.path (some object) with upload := none }, ?_,
        (mirrors.set (Option.some_ne_none object)).withUpload none, fun _ => ?_⟩
      · simp only [Effect, same_upload, pending]
        exact ⟨object, whole, rfl⟩
      · change (s.set upload.path (some object)).objects upload.path =
          (own.set upload.path (some object)).objects upload.path
        rw [set_objects_apply, set_objects_apply, if_pos rfl, if_pos rfl]
  | aborted =>
    cases effect
    exact ⟨_, rfl, mirrors.withUpload _, fun changed => absurd rfl changed⟩
  | served => exact puts.elim

end StoreState

/-! ### Histories of a shared store -/

namespace SharedState

variable {ι : Type} {user : ι} {exchange : Exchange} {history : History ι} {s s' : SharedState ι}

/-- Whoever makes such a call, only the object under the path may have changed, and it is there if it was
there before. -/
theorem Step.grows (step : Step user exchange s s') (puts : exchange.1.PutsAt path)
    (targets : (s.view user).Targets path) : Grows path (s.view user) (s'.view user) := by
  cases means : exchange.storeEvent? with
  | none =>
    have same := (step_iff_eq means).mp step.effect
    rw [same]
    exact ⟨fun _ _ => rfl, id, targets⟩
  | some event => exact Effect.grows (puts.event means) targets ((step_iff means).mp step.effect)

/-- The uploads of all users stay uploads of the object under the path. -/
theorem Step.targets (step : Step user exchange s s') (puts : exchange.1.PutsAt path)
    (targets : ∀ user, (s.view user).Targets path) (other : ι) : (s'.view other).Targets path := by
  by_cases is_user : other = user
  · obtain rfl := is_user
    exact (step.grows puts (targets other)).targets
  · intro upload is_upload
    exact targets other upload ((step.others other is_user).symm.trans is_upload)

/-- After any number of such calls only the object under the path may have changed, and it is there if
it was there before. -/
theorem Follows.grows (follows : s.Follows history s')
    (puts : ∀ entry ∈ history, entry.2.1.PutsAt path) (targets : ∀ user, (s.view user).Targets path) :
    (∀ other, other ≠ path → s'.objects other = s.objects other) ∧
      (s.objects path ≠ none → s'.objects path ≠ none) ∧ ∀ user, (s'.view user).Targets path := by
  induction history generalizing s with
  | nil =>
    obtain rfl : s' = s := follows
    exact ⟨fun _ _ => rfl, id, targets⟩
  | cons entry rest ih =>
    obtain ⟨middle, step, later⟩ := follows
    obtain ⟨first, others⟩ := List.forall_mem_cons.mp puts
    have grows := step.grows first (targets entry.1)
    obtain ⟨elsewhere, present, targets'⟩ := ih later others (step.targets first targets)
    exact ⟨fun other differs => (elsewhere other differs).trans (grows.elsewhere other differs),
      fun has => present (grows.present has), targets'⟩

/-- The objects stay as they are while nothing shows. -/
theorem Follows.objects_eq (follows : s.Follows history s')
    (quiet : ∀ entry ∈ history, ¬ entry.2.Shows) : s'.objects = s.objects := by
  induction history generalizing s with
  | nil => exact congrArg objects follows
  | cons entry rest ih =>
    obtain ⟨middle, step, later⟩ := follows
    obtain ⟨first, others⟩ := List.forall_mem_cons.mp quiet
    rw [ih later others]
    cases means : entry.2.storeEvent? with
    | none => exact congrArg StoreState.objects ((step_iff_eq means).mp step.effect)
    | some event =>
      have not_writes : ¬ event.Writes := fun writes => first ⟨event, means, writes⟩
      exact ((step_iff means).mp step.effect).objects_eq not_writes

variable {own : StoreState}

/-- What a user has of an exchange is what it would have of a store of its own. -/
theorem Step.exists_own (step : Step user exchange s s') (puts : exchange.1.PutsAt path)
    (targets : (s.view user).Targets path) (mirrors : Mirrors path (s.view user) own) :
    ∃ own', StoreState.Step exchange own own' ∧ Mirrors path (s'.view user) own' ∧
      (own'.objects path ≠ own.objects path → s'.objects path = own'.objects path) := by
  cases means : exchange.storeEvent? with
  | none =>
    refine ⟨own, (step_iff_eq means).mpr rfl, ?_, fun changed => absurd rfl changed⟩
    rw [(step_iff_eq means).mp step.effect]
    exact mirrors
  | some event =>
    obtain ⟨own', effect, mirrors', shows⟩ :=
      mirrors.effect (puts.event means) targets ((step_iff means).mp step.effect)
    exact ⟨own', (step_iff means).mpr effect, mirrors', shows⟩

/-- **What a user has of a history is what it would have of a store of its own.**

**Proof sketch.** Induction on the history. What the user does has the same effect on both stores; what
the others do is nothing for the store of its own, and takes no object away from the shared one. -/
theorem Follows.exists_own [DecidableEq ι] (follows : s.Follows history s')
    (puts : ∀ entry ∈ history, entry.2.1.PutsAt path) (targets : ∀ user, (s.view user).Targets path)
    (mirrors : Mirrors path (s.view user) own) :
    ∃ own', StoreState.Follows own (history.own user) own' ∧ Mirrors path (s'.view user) own' := by
  induction history generalizing s own with
  | nil =>
    obtain rfl : s' = s := follows
    exact ⟨own, rfl, mirrors⟩
  | cons entry rest ih =>
    obtain ⟨other, exchange⟩ := entry
    obtain ⟨middle, step, later⟩ := follows
    obtain ⟨first, others⟩ := List.forall_mem_cons.mp puts
    have targets' := step.targets first targets
    by_cases is_user : other = user
    · obtain rfl := is_user
      obtain ⟨own', own_step, mirrors', _⟩ := step.exists_own first (targets other) mirrors
      obtain ⟨final, own_follows, ends⟩ := ih later others targets' mirrors'
      rw [History.own_cons_self]
      exact ⟨final, ⟨own', own_step, own_follows⟩, ends⟩
    · have grows := step.grows first (targets other)
      have mirrors' : Mirrors path (middle.view user) own :=
        mirrors.of_grows grows.elsewhere grows.present (step.others user (Ne.symm is_user))
      obtain ⟨final, own_follows, ends⟩ := ih later others targets' mirrors'
      rw [History.own_cons_of_ne is_user]
      exact ⟨final, own_follows, ends⟩

end SharedState

end GraphOffload

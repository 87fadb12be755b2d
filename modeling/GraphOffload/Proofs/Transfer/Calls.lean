import GraphOffload.Proofs.Transfer.Sending

/-!
# The calls of an upload

Which calls an upload makes does not depend on the replies: it asks whether the object is there, reads
the parts of its plan and no others, and sends them under its key.

## Main definitions

* `GraphOffload.UploadSource` : what is uploaded, in parts or at once.
* `GraphOffload.Upload.Sends` : the calls by which parts are read and sent.
* `GraphOffload.Upload.Transmits` : the calls by which an object is sent.

## Main results

* `GraphOffload.UploadSource.within_send` : an object is sent by these calls alone.
-/

namespace GraphOffload

open Attempting

/-! ### What is uploaded -/

/-- What is uploaded: bytes that are read part by part, or bytes that are at hand. -/
inductive UploadSource
  | read (area : StagingArea) (total : UInt64)
  | bytes (data : Bytes)

namespace UploadSource

/-- The upload under a key. -/
def upload (key : String) : UploadSource → Attempting Nat
  | read area total => Upload.vectors area key total
  | bytes data => Upload.blob key data

/-- How many bytes are asked for. -/
def length : UploadSource → Nat
  | read _ total => total.toNat
  | bytes data => data.length

/-- The parts that are read, in their order. -/
def parts : UploadSource → List Part
  | read area total =>
    if area.multipart ∧ 0 < total then Part.plan total area.options.partSize else [⟨0, 0, total⟩]
  | bytes _ => []

/-- The bytes that were produced for the object in a trace. -/
def produced (trace : Trace) : UploadSource → Bytes
  | read .. => trace.produced
  | bytes data => data

/-- How the bytes are sent when there is no object under the key. -/
def send (key : String) : UploadSource → Attempting Nat
  | read area total =>
    if area.multipart ∧ 0 < total then Upload.inParts area.options key total
    else Upload.inOnePiece key total
  | bytes data => Upload.putWhole key data

/-- An upload is the same from every source, but for the sending. -/
theorem upload_eq (source : UploadSource) (key : String) :
    source.upload key = Upload.whole key source.length (source.send key) := by
  cases source <;> rfl

end UploadSource

/-! ### Paths -/

/-- What follows the path of a key is done only if the key has one. -/
theorem BlobStore.within_pathOf_bind {α : Type} {P : Call → Prop} {key : String}
    {next : ObjectPath → Attempting α}
    (h : ∀ path, ObjectPath.parse key = .ok path → Within P (next path)) :
    Within P (pathOf key >>= next) := by
  cases parsed : ObjectPath.parse key with
  | error error =>
    rw [pathOf, parsed]
    exact within_throw _
  | ok path =>
    rw [pathOf, parsed]
    exact h path parsed

namespace Upload

variable {key : String} {plan : List Part}

/-! ### Parts -/

/-- The calls by which the parts of a plan are read and sent. -/
def Sends (key : String) (plan : List Part) : Call → Prop
  | .beginRead key' part | .endRead key' part => key' = key ∧ part ∈ plan
  | .beginPart .. | .endPart _ | .choose _ | .notify _ => True
  | _ => False

/-- Waiting for a part belongs to the sending. -/
theorem within_acknowledge (total : Nat) (flight : Flight) :
    Within (Sends key plan) (acknowledge key total flight) := by
  obtain ⟨underway, sent⟩ := flight
  cases underway with
  | nil => exact within_pure _
  | cons oldest others =>
    refine within_bind (within_attempt trivial) fun index => ?_
    refine within_bind (within_attempt trivial) fun _ => ?_
    exact within_bind (within_attempt trivial) fun _ => within_pure _

/-- So does waiting for all of them. -/
theorem within_acknowledgeAll (total count : Nat) (flight : Flight) :
    Within (Sends key plan) (acknowledgeAll key total count flight) := by
  induction count generalizing flight with
  | zero => exact within_pure _
  | succ count ih => exact within_bind (within_acknowledge total flight) ih

/-- Parts of the plan may begin to be read. -/
theorem within_beginReads {parts : List Part} (planned : parts ⊆ plan) :
    Within (Sends key plan) (beginReads key parts) := by
  induction parts with
  | nil => exact within_pure _
  | cons part parts ih =>
    obtain ⟨first, others⟩ := List.cons_subset.mp planned
    exact within_bind (within_attempt ⟨rfl, first⟩) fun _ => ih others

/-- Sending the parts of a plan reads and sends no others.

**Proof sketch.** Induction on the parts that are left. The parts ahead are among those of the plan,
and stay so when the first of them is taken. -/
theorem within_sendParts (key : String) (total atOnce : Nat) {parts ahead : List Part} (flight : Flight)
    (planned : parts ⊆ plan) (planned' : ahead ⊆ plan) :
    Within (Sends key plan) (sendParts key total atOnce parts ahead flight) := by
  induction parts generalizing ahead flight with
  | nil => exact within_acknowledgeAll _ _ _
  | cons part parts ih =>
    obtain ⟨first, others⟩ := List.cons_subset.mp planned
    refine within_bind (within_attempt ⟨rfl, first⟩) fun data => ?_
    refine within_bind (within_attempt trivial) fun _ => ?_
    have loop (next : Flight) : Within (Sends key plan) (do
        beginReads key (ahead.take 1)
        sendParts key total atOnce parts (ahead.drop 1) next) :=
      within_bind (within_beginReads (List.Subset.trans (List.take_subset 1 ahead) planned')) fun _ =>
        ih _ others (List.Subset.trans (List.drop_subset 1 ahead) planned')
    dsimp only
    split
    · exact within_bind (within_acknowledge _ _) loop
    · exact loop _

/-- What is done between the opening of an upload in parts and its end. -/
def sendAndComplete (options : TransferOptions) (key : String) (total : UInt64) : Attempting Nat := do
  let parts := Part.plan total options.partSize
  beginReads key (parts.take options.atOnce)
  let sent ← sendParts key total.toNat options.atOnce parts (parts.drop options.atOnce) {}
  Call.completeUpload.attempt (·.mapError (.transferStore key))
  return sent

/-- Between the opening of an upload and its end nothing is opened or aborted. -/
theorem within_sendAndComplete (options : TransferOptions) (total : UInt64) :
    Within (fun call => Sends key (Part.plan total options.partSize) call ∨ call = .completeUpload)
      (sendAndComplete options key total) := by
  refine within_bind ((within_beginReads (List.take_subset _ _)).mono fun _ => .inl) fun _ => ?_
  refine within_bind ((within_sendParts _ _ _ _ (List.Subset.refl _) (List.drop_subset _ _)).mono
    fun _ => .inl) fun sent => ?_
  exact within_bind (within_attempt (.inr rfl)) fun _ => within_pure _

/-- Such calls neither open nor abort an upload. -/
theorem Sends.apart {call : Call} (h : Sends key plan call ∨ call = .completeUpload) :
    call ≠ .abortUpload ∧ ∀ path, call ≠ .openUpload path := by
  rcases h with h | rfl
  · exact ⟨fun same => by simp [same, Sends] at h, fun path same => by simp [same, Sends] at h⟩
  · exact ⟨nofun, nofun⟩

/-! ### Whole objects -/

/-- The calls by which an object is sent to the path of its key, in parts or at once. -/
def Transmits (key : String) (plan : List Part) : Call → Prop
  | .put path _ | .openUpload path => ObjectPath.parse key = .ok path
  | .completeUpload | .abortUpload => True
  | call => Sends key plan call

/-- What is made for sending parts belongs to the sending of the object. -/
theorem Sends.transmits {call : Call} (h : Sends key plan call) : Transmits key plan call := by
  cases call <;> first | exact h | trivial

/-- Putting an object at once sends it. -/
theorem within_putWhole (data : Bytes) : Within (Transmits key plan) (putWhole key data) :=
  BlobStore.within_pathOf_bind fun _ parsed => within_attempt parsed

/-- An upload in one piece reads one part, which is the whole. -/
theorem within_inOnePiece (total : UInt64) :
    Within (Transmits key [⟨0, 0, total⟩]) (inOnePiece key total) :=
  within_bind (within_attempt ⟨rfl, List.mem_singleton_self _⟩) fun _ =>
    within_bind (within_attempt ⟨rfl, List.mem_singleton_self _⟩) fun _ => within_putWhole _

/-- An upload in parts reads the parts of its plan. -/
theorem within_inParts (options : TransferOptions) (total : UInt64) :
    Within (Transmits key (Part.plan total options.partSize)) (inParts options key total) := by
  refine BlobStore.within_pathOf_bind fun path parsed => within_bind (within_attempt parsed) fun _ => ?_
  refine within_caught ((within_sendAndComplete options total).mono ?_) fun outcome => ?_
  · rintro call (sends | rfl)
    · exact sends.transmits
    · trivial
  · cases outcome with
    | error failure => exact ⟨trivial, fun _ => trivial⟩
    | ok value => trivial

end Upload

/-- **An object is sent by these calls alone**, and of its parts those of its plan. -/
theorem UploadSource.within_send (source : UploadSource) (key : String) :
    Within (Upload.Transmits key source.parts) (source.send key) := by
  cases source with
  | read area total =>
    rw [send, parts]
    split
    · exact Upload.within_inParts _ _
    · exact Upload.within_inOnePiece _
  | bytes data => exact Upload.within_putWhole data

end GraphOffload

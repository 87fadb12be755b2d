import GraphOffload.Proofs.Corpus.Acceptance
import GraphOffload.Proofs.Transfer.Losses

/-!
# Flat files that lost their end

A flat file may be cut off after it was accepted. A cursor that is opened then still gives all documents
that the header promised, and the vectors that are wholly there. A vector that is not there leaves the
reader at the end of the file, which is no place where a vector begins, and from there the reader goes on
by whole vectors. It never comes back to a place where there is something to read: every vector from the
first missing one on is missing too.

## Main definitions

* `GraphOffload.FlatFile.vectorAt` : the vector of a document in an accepted file.
* `GraphOffload.FlatFile.salvaged` : what is left of it in the first bytes of the file.
* `GraphOffload.FlatFile.survey` : what calls on a cursor reply, one after the other.
* `GraphOffload.FlatFileCursor.InCut` : where the reader of a file that was cut off can stand.
* `GraphOffload.FlatFile.Salvages` : what a file that was cut off is good for.

## Main results

* `GraphOffload.FlatFileCursor.InCut.nextDoc`, `GraphOffload.FlatFileCursor.InCut.vector` : what one call
  replies, and where the reader stands after it.
* `GraphOffload.FlatFile.lossy_of_cut` : a file that was cut off is a corpus of which some vectors are
  lost.
* `GraphOffload.FlatFile.cut_salvages` : what any accepted file is good for that was cut off.
-/

namespace GraphOffload

open Attempting StoreState

namespace FlatFile

/-! ### Vectors by their places -/

/-- The vector of a document in a file, at its place behind the header. -/
def vectorAt (file : FlatFile) (content : Bytes) (number : Nat) : Elements :=
  Bytes.words (content.slice (8 + 4 * file.dimension.toNat * number, 4 * file.dimension.toNat))

/-- What is left of the vector of a document in the first `kept` bytes of a file: all of it, or a read
that comes short. -/
def salvaged (file : FlatFile) (content : Bytes) (kept number : Nat) : Except Fault Elements :=
  if 8 + 4 * file.dimension.toNat * (number + 1) ≤ kept then .ok (file.vectorAt content number)
  else .error Fault.shortRead

/-- What asking for a vector comes to when `met` documents were asked for before. -/
def vectorUnder (count : Nat) (vector : Nat → Except Fault Elements) : Nat → Except Fault Elements
  | 0 => .error Fault.notOnDocument
  | number + 1 => if number < count then vector number else .error Fault.notOnDocument

/-- What calls on a cursor reply, one after the other, when `met` documents were asked for before: the
documents are numbered from zero, and whenever the vector of the one that the cursor stands on is asked
for the reply is the same. -/
def survey (count : Nat) (vector : Nat → Except Fault Elements) : Nat → List CursorCall → List CursorReply
  | _, [] => []
  | met, .nextDoc :: calls =>
    .doc (.ok (if met < count then some (Int32.ofNat met) else none)) :: survey count vector (met + 1) calls
  | met, .vector :: calls => .vector (vectorUnder count vector met) :: survey count vector met calls

/-- A document of a file with what is left of its vector in the first `kept` bytes. -/
def recordAt (file : FlatFile) (content : Bytes) (kept number : Nat) : Record :=
  (Int32.ofNat number, file.salvaged content kept number)

/-- A vector that the header promises ends in the file, if the file holds what its header promises. -/
theorem end_le {file : FlatFile} {content : Bytes}
    (whole : 8 + 4 * file.dimension.toNat * file.count.toNat ≤ content.length) {number : Nat}
    (below : number < file.count.toNat) :
    8 + 4 * file.dimension.toNat * (number + 1) ≤ content.length := by
  have to_end : 4 * file.dimension.toNat * (number + 1) ≤
      4 * file.dimension.toNat * file.count.toNat := Nat.mul_le_mul_left _ below
  omega

/-- The vector of a document is as many bytes of the file as the header promises. -/
theorem length_slice {file : FlatFile} {content : Bytes}
    (whole : 8 + 4 * file.dimension.toNat * file.count.toNat ≤ content.length) {number : Nat}
    (below : number < file.count.toNat) :
    (content.slice (8 + 4 * file.dimension.toNat * number, 4 * file.dimension.toNat)).length =
      4 * file.dimension.toNat := by
  have ends := end_le whole below
  rw [Nat.mul_succ] at ends
  rw [Bytes.slice, List.length_take, List.length_drop]
  omega

/-- Its elements take as many bytes in memory. -/
theorem length_vectorAt {file : FlatFile} {content : Bytes}
    (whole : 8 + 4 * file.dimension.toNat * file.count.toNat ≤ content.length) {number : Nat}
    (below : number < file.count.toNat) :
    4 * (file.vectorAt content number).length = 4 * file.dimension.toNat := by
  rw [vectorAt, Bytes.length_words, length_slice whole below]
  omega

/-- A fresh reader over the bytes of a file. -/
def reader (file : FlatFile) (content : Bytes) : FlatFileCursor :=
  { content := content, count := file.count.toNat, vectorLength := 4 * file.dimension.toNat }

end FlatFile

/-! ### Where a reader stands -/

namespace FlatFileCursor

open FlatFile

variable {file : FlatFile} {content : Bytes} {kept met : Nat} {cursor : FlatFileCursor}

/-- Where the reader of a file that was cut off stands when `met` documents were asked for: before the
first one; before the vector of a document, or after it when it was read; past the last document. Once a
vector could not be read the reader is off the places where vectors begin, but then it is past the end of
the file, which holds none of the vectors from there on. -/
inductive InCut (file : FlatFile) (content : Bytes) (kept : Nat) : Nat → FlatFileCursor → Prop
  | fresh : InCut file content kept 0 (file.reader (content.take kept))
  | unread {number : Nat} (below : number < file.count.toNat) :
    InCut file content kept (number + 1) { file.reader (content.take kept) with
      position := 8 + 4 * file.dimension.toNat * number
      next := number + 1
      onDocument := true }
  | adrift {number position : Nat} (below : number < file.count.toNat)
      (missing : kept < 8 + 4 * file.dimension.toNat * (number + 1)) (past : kept ≤ position) :
    InCut file content kept (number + 1) { file.reader (content.take kept) with
      position := position
      next := number + 1
      onDocument := true }
  | read {number : Nat} (below : number < file.count.toNat)
      (held : 8 + 4 * file.dimension.toNat * (number + 1) ≤ kept) :
    InCut file content kept (number + 1) { file.reader (content.take kept) with
      position := 8 + 4 * file.dimension.toNat * (number + 1)
      next := number + 1
      onDocument := true
      loaded := some (file.vectorAt content number) }
  | done {met position : Nat} {loaded : Option Elements} (beyond : file.count.toNat < met) :
    InCut file content kept met { file.reader (content.take kept) with
      position := position
      next := file.count.toNat
      loaded := loaded }

/-- What moving on replies, and where the reader stands then, if it comes to the place `position'` of the
next vector. -/
theorem InCut.nextDoc_of_passed (countable : file.count.toNat ≤ maxCount)
    {position next position' : Nat} {onDocument : Bool} {loaded : Option Elements}
    (passed : (if onDocument ∧ loaded.isNone then position + 4 * file.dimension.toNat
      else position) = position')
    (here : next = min met file.count.toNat)
    (before_next : met < file.count.toNat → InCut file content kept (met + 1)
      { file.reader (content.take kept) with
        position := position', next := met + 1, onDocument := true }) :
    let cursor := { file.reader (content.take kept) with
      position := position, next := next, onDocument := onDocument, loaded := loaded }
    (Cursor.nextDoc cursor).1 = .ok (if met < file.count.toNat then some (Int32.ofNat met) else none) ∧
      InCut file content kept (met + 1) (Cursor.nextDoc cursor).2 := by
  by_cases more : met < file.count.toNat
  · obtain rfl : next = met := by omega
    have some_left : ¬ file.count.toNat ≤ next := Nat.not_le.mpr more
    have identified : docId? next = some (Int32.ofNat next) := if_pos (by omega)
    simp only [Cursor.nextDoc, reader, passed, if_neg some_left, identified, if_pos more, true_and]
    exact before_next more
  · obtain rfl : next = file.count.toNat := by omega
    simp only [Cursor.nextDoc, reader, passed, if_pos (Nat.le_refl _), if_neg more, true_and]
    exact .done (Nat.lt_succ_of_le (Nat.not_lt.mp more))

/-- **Moving on never fails**, and whatever the reader stood on, it stands before the next vector then, or
past the end of the file, which does not hold that vector.

**Proof sketch.** By where the reader stands. From a vector that was read, and from one that was not, it
comes to the next one; from one that is missing it comes only farther beyond the end of the file. -/
theorem InCut.nextDoc (countable : file.count.toNat ≤ maxCount)
    (stands : InCut file content kept met cursor) :
    (Cursor.nextDoc cursor).1 = .ok (if met < file.count.toNat then some (Int32.ofNat met) else none) ∧
      InCut file content kept (met + 1) (Cursor.nextDoc cursor).2 := by
  have width_succ (number : Nat) : 4 * file.dimension.toNat * (number + 1) =
      4 * file.dimension.toNat * number + 4 * file.dimension.toNat := Nat.mul_succ _ _
  cases stands with
  | fresh => exact nextDoc_of_passed countable rfl (Nat.zero_min _).symm .unread
  | @unread number below =>
    refine nextDoc_of_passed countable rfl (Nat.min_eq_left below).symm fun below' => ?_
    have next_place : 8 + 4 * file.dimension.toNat * number + 4 * file.dimension.toNat =
        8 + 4 * file.dimension.toNat * (number + 1) := by
      rw [width_succ, Nat.add_assoc]
    rw [next_place]
    exact .unread below'
  | @adrift number position below missing past =>
    have missing' : kept < 8 + 4 * file.dimension.toNat * (number + 1 + 1) := by
      rw [width_succ]
      omega
    have past' : kept ≤ position + 4 * file.dimension.toNat := Nat.le_add_right_of_le past
    exact nextDoc_of_passed countable rfl (Nat.min_eq_left below).symm
      fun below' => .adrift below' missing' past'
  | read below held => exact nextDoc_of_passed countable rfl (Nat.min_eq_left below).symm .unread
  | done beyond =>
    exact nextDoc_of_passed countable rfl (Nat.min_eq_right (Nat.le_of_lt beyond)).symm
      fun below => absurd below (by omega)

/-- A vector that is not wholly in the file is not read, and the reader is left past the end of the file.
-/
theorem InCut.vector_of_short (positive : 0 < file.dimension.toNat)
    (whole : 8 + 4 * file.dimension.toNat * file.count.toNat ≤ content.length)
    {number position : Nat} (below : number < file.count.toNat)
    (missing : kept < 8 + 4 * file.dimension.toNat * (number + 1))
    (past : kept < position + 4 * file.dimension.toNat) :
    let cursor := { file.reader (content.take kept) with
      position := position, next := number + 1, onDocument := true }
    (Cursor.vector cursor).1 = .error Fault.shortRead ∧
      InCut file content kept (number + 1) (Cursor.vector cursor).2 := by
  have ends := end_le whole below
  have length_eq : (((content.take kept).drop position).take (4 * file.dimension.toNat)).length =
      kept - position := by
    rw [List.length_take, List.length_drop, List.length_take]
    omega
  have short : ¬ kept - position = 4 * file.dimension.toNat := by omega
  simp only [Cursor.vector, load, reader, if_true, length_eq, if_neg short]
  exact ⟨trivial, .adrift below missing (by omega)⟩

/-- A vector that is wholly in the file is read from its place. -/
theorem InCut.vector_of_held
    (whole : 8 + 4 * file.dimension.toNat * file.count.toNat ≤ content.length)
    {number : Nat} (below : number < file.count.toNat)
    (held : 8 + 4 * file.dimension.toNat * (number + 1) ≤ kept) :
    let cursor := { file.reader (content.take kept) with
      position := 8 + 4 * file.dimension.toNat * number, next := number + 1, onDocument := true }
    (Cursor.vector cursor).1 = .ok (file.vectorAt content number) ∧
      InCut file content kept (number + 1) (Cursor.vector cursor).2 := by
  have after : InCut file content kept _ _ := .read below held
  have length_eq := length_slice whole below
  rw [Nat.mul_succ] at held
  rw [Nat.mul_succ, ← Nat.add_assoc] at after
  have bytes_eq : ((content.take kept).drop (8 + 4 * file.dimension.toNat * number)).take
      (4 * file.dimension.toNat) =
        content.slice (8 + 4 * file.dimension.toNat * number, 4 * file.dimension.toNat) := by
    rw [List.drop_take, List.take_take, Nat.min_eq_left (by omega)]
    rfl
  simp only [Cursor.vector, load, reader, if_true, bytes_eq, length_eq]
  exact ⟨rfl, after⟩

/-- **Asking for a vector brings it exactly if it is there**, the first time and every other.

**Proof sketch.** By where the reader stands. Before a vector it reads the bytes, if the file has them
all (`vector_of_held`, `vector_of_short`); on one that it has read it has them still. -/
theorem InCut.vector (positive : 0 < file.dimension.toNat)
    (whole : 8 + 4 * file.dimension.toNat * file.count.toNat ≤ content.length)
    (stands : InCut file content kept met cursor) :
    (Cursor.vector cursor).1 = vectorUnder file.count.toNat (file.salvaged content kept) met ∧
      InCut file content kept met (Cursor.vector cursor).2 := by
  cases stands with
  | fresh => exact ⟨rfl, .fresh⟩
  | @unread number below =>
    rw [vectorUnder, if_pos below]
    by_cases held : 8 + 4 * file.dimension.toNat * (number + 1) ≤ kept
    · rw [salvaged, if_pos held]
      exact vector_of_held whole below held
    · rw [salvaged, if_neg held]
      rw [Nat.mul_succ] at held
      exact vector_of_short positive whole below (by rw [Nat.mul_succ]; omega) (by omega)
  | adrift below missing past =>
    rw [vectorUnder, if_pos below, salvaged, if_neg (Nat.not_le.mpr missing)]
    exact vector_of_short positive whole below missing (by omega)
  | read below held =>
    rw [vectorUnder, if_pos below, salvaged, if_pos held]
    exact ⟨rfl, .read below held⟩
  | done beyond =>
    refine ⟨?_, .done beyond⟩
    cases met with
    | zero => rfl
    | succ number => exact (if_neg (by omega)).symm

/-- Calls that are made one after the other reply as the survey says. -/
theorem InCut.replies_eq (countable : file.count.toNat ≤ maxCount) (positive : 0 < file.dimension.toNat)
    (whole : 8 + 4 * file.dimension.toNat * file.count.toNat ≤ content.length)
    (stands : InCut file content kept met cursor) (calls : List CursorCall) :
    Cursor.replies calls cursor = survey file.count.toNat (file.salvaged content kept) met calls := by
  induction calls generalizing met cursor with
  | nil => rfl
  | cons call calls ih =>
    cases call with
    | nextDoc =>
      obtain ⟨reply_eq, after⟩ := stands.nextDoc countable
      rw [survey, ← ih after, ← reply_eq]
      rfl
    | vector =>
      obtain ⟨reply_eq, after⟩ := stands.vector positive whole
      rw [survey, ← ih after, ← reply_eq]
      rfl

/-- The records ahead of a reader are those of the documents that were not asked for yet.

**Proof sketch.** Induction on how many there are. Whether or not the vector of a document is asked for,
the reader stands on that document afterwards. -/
theorem InCut.recites (countable : file.count.toNat ≤ maxCount) (positive : 0 < file.dimension.toNat)
    (whole : 8 + 4 * file.dimension.toNat * file.count.toNat ≤ content.length)
    (stands : InCut file content kept met cursor) {left : Nat} (left_eq : met + left = file.count.toNat) :
    Cursor.Recites ((List.range' met left).map (file.recordAt content kept)) cursor := by
  induction left generalizing met cursor with
  | zero =>
    obtain ⟨reply_eq, _⟩ := stands.nextDoc countable
    rw [if_neg (by omega)] at reply_eq
    exact ⟨_, Prod.ext reply_eq rfl⟩
  | succ left ih =>
    have below : met < file.count.toNat := by omega
    obtain ⟨found, here⟩ := stands.nextDoc countable
    obtain ⟨record_eq, after⟩ := here.vector positive whole
    rw [if_pos below] at found
    rw [vectorUnder, if_pos below] at record_eq
    exact ⟨_, Prod.ext found rfl, ih here (by omega), _, Prod.ext record_eq rfl, ih after (by omega)⟩

end FlatFileCursor

/-! ### Files that were cut off -/

namespace FlatFile

variable {name : String} {file : FlatFile} {content : Bytes} {kept : Nat}

/-- What the reader relies on holds of an accepted file. -/
theorem sound_of_parse (parsed : parse name content = .ok file) :
    file.count.toNat ≤ maxCount ∧ 0 < file.dimension.toNat ∧
      8 + 4 * file.dimension.toNat * file.count.toNat ≤ content.length ∧
      file.shape.bytesPerVector.toNat = 4 * file.dimension.toNat := by
  obtain ⟨count_eq, dimension_eq, headed, positive, countable, whole⟩ := parse_eq_ok parsed
  have small : headerDimension content < 4294967296 := by
    obtain ⟨_, dimension, _, _, same⟩ := words_header headed
    exact same ▸ dimension.toNat_lt
  have four : (4 : UInt64).toNat = 4 := rfl
  have width_eq : file.shape.bytesPerVector.toNat = 4 * file.dimension.toNat := by
    change (file.dimension * 4).toNat = _
    rw [UInt64.toNat_mul, four]
    omega
  rw [← count_eq, ← dimension_eq, Nat.mul_right_comm] at whole
  exact ⟨count_eq ▸ countable, dimension_eq ▸ Nat.pos_of_ne_zero positive, whole, width_eq⟩

/-- Vectors that are lost are lost for the end of the file. -/
theorem kind_of_lost {fault : Fault} {id : DocId}
    (mem : (id, .error fault) ∈ (List.range' 0 file.count.toNat).map (file.recordAt content kept)) :
    fault.kind = .unexpectedEnd := by
  obtain ⟨number, _, record_eq⟩ := List.mem_map.mp mem
  obtain ⟨_, left⟩ := Prod.mk.inj record_eq
  rw [salvaged] at left
  split at left
  · cases left
  · obtain rfl := Except.error.inj left
    rfl

/-- An accepted file that was cut off is a corpus of which some vectors are lost. -/
theorem lossy_of_cut (parsed : parse name content = .ok file) (kept : Nat) :
    Corpus.Lossy file.shape ((List.range' 0 file.count.toNat).map (file.recordAt content kept))
      (file.reader (content.take kept)) := by
  obtain ⟨countable, positive, whole, width_eq⟩ := sound_of_parse parsed
  refine ⟨rfl, by omega, ?_, ?_, ?_⟩
  · exact FlatFileCursor.InCut.fresh.recites countable positive whole (Nat.zero_add _)
  · intro id vector mem
    obtain ⟨number, numbered, record_eq⟩ := List.mem_map.mp mem
    have below : number < file.count.toNat := by simpa using numbered
    obtain ⟨_, left⟩ := Prod.mk.inj record_eq
    rw [salvaged] at left
    split at left
    · obtain rfl := Except.ok.inj left
      rw [length_vectorAt whole below, width_eq]
    · cases left
  · intro id fault mem same
    cases same.symm.trans (kind_of_lost mem)

/-- What an accepted file is good for when only its first `kept` bytes are left. -/
structure Salvages (file : FlatFile) (content : Bytes) (kept : Nat) : Prop where
  /-- Whatever is called on a cursor, all documents are there, and the vectors that are wholly left; the
  others are not, whenever they are asked for. -/
  replies : ∀ calls, (file.toCorpus (content.take kept)).replies calls =
    .ok (survey file.count.toNat (file.salvaged content kept) 0 calls)
  /-- An upload that asks for bytes of a vector that is not wholly left founders. -/
  uploads : ∀ {area : StagingArea} {key : String} {total : UInt64} {trace : Trace}
    {outcome : Except Failure Nat} {before after : StoreState} {number : Nat},
    number < file.count.toNat → kept < 8 + 4 * file.dimension.toNat * (number + 1) →
    4 * file.dimension.toNat * number < total.toNat →
    Run (Upload.vectors area key total) trace outcome → FollowsTruly before trace after →
    (∀ exchange ∈ trace, exchange.ReadsOf (file.toCorpus (content.take kept))) →
    UploadSource.Founders key (.read area total) (4 * file.dimension.toNat)
      (fun fault => fault.kind = .unexpectedEnd) before trace after outcome
  /-- The parts of the uploads of builds start at vectors. -/
  plans : ∀ (area : StagingArea) (total : UInt64),
    ∀ part ∈ (UploadSource.read (area.alignedTo file.shape.bytesPerVector) total).parts,
      4 * file.dimension.toNat ∣ part.offset.toNat

/-- **What an accepted file is good for when it was cut off**: its cursors tell no wrong vector and miss
no document, whatever is called on them, and an upload that needs what is lost stores nothing.

**Proof sketch.** A reader that comes short stands past the end of the file from then on, and every
vector that begins there is lost anyhow. -/
theorem cut_salvages (parsed : parse name content = .ok file) (kept : Nat) :
    file.Salvages content kept := by
  obtain ⟨countable, positive, whole, width_eq⟩ := sound_of_parse parsed
  refine ⟨fun calls => ?_, ?_, fun area total part planned => ?_⟩
  · exact congrArg Except.ok (FlatFileCursor.InCut.fresh.replies_eq countable positive whole calls)
  · intro area key total trace outcome before after number below missing asked run follows reads
    have gap : ((List.range' 0 file.count.toNat).map (file.recordAt content kept))[number]? =
        some (Int32.ofNat number, .error Fault.shortRead) := by
      simp [below, recordAt, salvaged, Nat.not_le.mpr missing]
    rw [Nat.mul_comm, ← width_eq] at asked
    obtain ⟨failed, unchanged, transfer, unread⟩ :=
      (lossy_of_cut parsed kept).founders gap asked run follows reads
    rw [← width_eq]
    refine ⟨failed, unchanged, transfer, fun path found absent aligned works => ?_⟩
    obtain ⟨fault, same, ⟨id, mem⟩ | ⟨part, received, rfl⟩⟩ := unread path found absent aligned works
    · exact ⟨fault, same, kind_of_lost mem⟩
    · exact ⟨_, same, rfl⟩
  · rw [← width_eq]
    exact (UploadSource.aligned_parts area (by omega) total part planned).1

/-- A world with the file of two vectors, of which the end of the second one was cut off. -/
def cutWorld : World FlatFileCursor :=
  { corpus := FlatFile.toCorpus ⟨"two", 2, 1⟩ (twoVectors.take 15) }

/-- The first of two vectors is left, and an upload of both in two parts breaks off at the second part. -/
theorem cut_salvages_two_vectors :
    parse "two" twoVectors = .ok ⟨"two", 2, 1⟩ ∧ Salvages ⟨"two", 2, 1⟩ twoVectors 15 ∧
      ∃ trace after, UploadSource.Founders "k" (.read ⟨"", true, ⟨4, 4, 1⟩⟩ 8) 4
        (fun fault => fault.kind = .unexpectedEnd) cutWorld.store.shown trace after
        (.error (.transferFault "k" Fault.shortRead)) := by
  have parsed : parse "two" twoVectors = .ok ⟨"two", 2, 1⟩ := rfl
  have salvages := cut_salvages parsed 15
  let upload := (Upload.vectors ⟨"", true, ⟨4, 4, 1⟩⟩ "k" 8).run
  have failed : (cutWorld.play upload).1 = .error (.transferFault "k" Fault.shortRead) := by
    decide +kernel
  obtain ⟨after, run, follows, _⟩ :=
    World.exists_follows upload cutWorld rfl (by simp [cutWorld, FaultyStore.Honest])
  rw [failed] at run
  have cut_off : 15 < 8 + 4 * 1 * (1 + 1) := by decide
  exact ⟨parsed, salvages, _, after, salvages.uploads (by decide) cut_off (by decide) run follows
    (World.readsOf_transcript upload cutWorld)⟩

end FlatFile

end GraphOffload

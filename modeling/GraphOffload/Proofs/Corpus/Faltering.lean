import GraphOffload.Proofs.Corpus.Reads
import GraphOffload.Simulation.ScriptedCorpus

/-!
# Streams over cursors that falter

A call on a cursor may fail and leave the cursor where it was. A stream that is read on after a failed
read takes this into account as long as it was not the vector that could not be had: it moves to the
next document before it asks for the vector, and moves on again when it is read the next time. So the
document whose vector could not be had is lost, and what is read afterwards comes from behind it.

## Main definitions

* `GraphOffload.Cursor.Falters` : cursors over documents, whose calls may fail at any time.
* `GraphOffload.Cursor.Over` : such a cursor, before the first of its documents.
* `GraphOffload.VectorStream.ReadsFrom` : what one read does to the documents ahead.
* `GraphOffload.VectorStream.Salvages` : what is read of documents of which some are lost.
* `GraphOffload.FalteringCursor` : a cursor in memory with planned faults.

## Main results

* `GraphOffload.VectorStream.read_of_faces` : a read loses a document only if it fails at its vector.
* `GraphOffload.VectorStream.salvages_reads` : any number of reads, going on after failures, bring the
  bytes of all documents but those that were lost.
* `GraphOffload.Corpus.faltering` : what the streams and the parts of such a corpus bring.
* `GraphOffload.FalteringCursor.skips_refused_vector` : a part that is complete and lacks a vector.
-/

namespace GraphOffload

variable {σ : Type} [Cursor σ] {refuses : Fault → Bool}
  {placed : Option Elements → List (DocId × Elements) → σ → Prop} {docs : List (DocId × Elements)}

/-! ### Cursors whose calls may fail -/

namespace Cursor

/-- Cursors over documents, whose calls may fail at any time: `placed current ahead cursor` says that the
cursor stands on a document with the vector `current`, or on none, and that the documents `ahead` lie
ahead of it. A failed call moves no cursor. The faults with which vectors are refused are among those
that are named. -/
structure Falters (refuses : Fault → Bool)
    (placed : Option Elements → List (DocId × Elements) → σ → Prop) : Prop where
  nextDoc : ∀ {current ahead cursor}, placed current ahead cursor →
    (∃ fault after, Cursor.nextDoc cursor = (.error fault, after) ∧
      ∃ current', placed current' ahead after) ∨
    (ahead = [] ∧ ∃ after, Cursor.nextDoc cursor = (.ok none, after)) ∨
    ∃ id vector rest after, ahead = (id, vector) :: rest ∧
      Cursor.nextDoc cursor = (.ok (some id), after) ∧ placed (some vector) rest after
  vector : ∀ {current ahead cursor}, placed (some current) ahead cursor →
    (∃ fault after, Cursor.vector cursor = (.error fault, after) ∧ refuses fault = true ∧
      placed (some current) ahead after) ∨
    ∃ after, Cursor.vector cursor = (.ok current, after) ∧ placed (some current) ahead after

/-- A cursor with the documents ahead of it, whose calls may fail at any time. -/
def Over (refuses : Fault → Bool) (docs : List (DocId × Elements)) (cursor : σ) : Prop :=
  ∃ placed current, Falters refuses placed ∧ placed current docs cursor

/-- Documents that were passed over without a failure are behind the cursor. -/
theorem Falters.skip (falters : Falters refuses placed) {count : Nat} {cursor after : σ} {ended : Bool}
    {current : Option Elements} (stands : placed current docs cursor)
    (skipped : Cursor.skip count cursor = (.ok ended, after)) :
    (∃ current', placed current' (docs.drop count) after) ∨ ended = true ∧ docs.drop count = [] := by
  induction count generalizing docs cursor current with
  | zero =>
    obtain ⟨_, rfl⟩ := Prod.mk.inj skipped
    exact .inl ⟨current, stands⟩
  | succ count ih =>
    rw [Cursor.skip] at skipped
    rcases falters.nextDoc stands with ⟨fault, next, failed, _⟩ | ⟨rfl, next, none_left⟩ |
      ⟨id, vector, rest, next, rfl, found, stands'⟩
    · rw [failed] at skipped
      cases skipped
    · rw [none_left] at skipped
      obtain ⟨same, _⟩ := Prod.mk.inj skipped
      exact .inr ⟨(Except.ok.inj same).symm, List.drop_nil⟩
    · rw [found] at skipped
      exact ih stands' skipped

end Cursor

namespace VectorStream

variable {stream after : VectorStream σ} {ahead : List (DocId × Elements)}

/-! ### One read -/

/-- Documents lie ahead of a stream: its cursor is before them, or there are none and the stream knows
it. -/
inductive Faces (placed : Option Elements → List (DocId × Elements) → σ → Prop)
    (stream : VectorStream σ) (ahead : List (DocId × Elements)) : Prop
  | facing {current : Option Elements} (stands : placed current ahead stream.cursor)
  | ended (seen : stream.exhausted = true) (none_left : ahead = [])

/-- Vectors that are not of the expected width are refused as others are. -/
def RefusesOthers (refuses : Fault → Bool) (width : Nat) (docs : List (DocId × Elements)) : Prop :=
  ∀ doc ∈ docs, doc.2.length * 4 ≠ width → refuses (wrongWidth doc.2.length width) = true

/-- What one read does to the documents ahead: it brings the front of the bytes at hand, after those of
the next document were taken to them, or it fails and changes nothing, or it fails and the next
document is lost. -/
inductive ReadsFrom (refuses : Fault → Bool)
    (placed : Option Elements → List (DocId × Elements) → σ → Prop) (stream : VectorStream σ)
    (ahead : List (DocId × Elements)) : Except Fault Bytes → VectorStream σ → Prop
  | brings {got : Bytes} {after : VectorStream σ} {loaded left : List (DocId × Elements)}
      (ahead_eq : ahead = loaded ++ left)
      (bytes_eq : stream.pending ++ encodeVectors loaded = got ++ after.pending)
      (counted : got.length + after.remaining = stream.remaining) (faces : Faces placed after left) :
      ReadsFrom refuses placed stream ahead (.ok got) after
  | fails {fault : Fault} {after : VectorStream σ} (pending_eq : after.pending = stream.pending)
      (remaining_eq : after.remaining = stream.remaining) (faces : Faces placed after ahead) :
      ReadsFrom refuses placed stream ahead (.error fault) after
  | loses {fault : Fault} {after : VectorStream σ} {doc : DocId × Elements}
      {left : List (DocId × Elements)} (ahead_eq : ahead = doc :: left)
      (refused : refuses fault = true) (pending_eq : after.pending = stream.pending)
      (remaining_eq : after.remaining = stream.remaining) (faces : Faces placed after left) :
      ReadsFrom refuses placed stream ahead (.error fault) after

omit [Cursor σ] in
/-- What is delivered is the front of the bytes at hand. -/
theorem readsFrom_deliver {loaded left : List (DocId × Elements)} (next : VectorStream σ)
    (ahead_eq : ahead = loaded ++ left)
    (bytes_eq : stream.pending ++ encodeVectors loaded = next.pending)
    (remaining_eq : next.remaining = stream.remaining) (faces : Faces placed next left) (limit : Nat) :
    ReadsFrom refuses placed stream ahead (.ok (next.deliver limit).1) (next.deliver limit).2 := by
  refine .brings ahead_eq ?_ ?_ ?_
  · rw [bytes_eq, deliver, List.take_append_drop]
  · simp only [deliver, List.length_take, ← remaining_eq]
    omega
  · cases faces with
    | facing stands => exact .facing stands
    | ended seen none_left => exact .ended seen none_left

/-- What comes of the next document when nothing is at hand: its vector is taken, the end is seen, the
cursor fails where it is, or it fails at the vector of the document, which is behind it then.

**Proof sketch.** By what the cursor does when it is moved, and then when it is asked for the vector. A
vector of the wrong width is a failure at the vector as well. -/
theorem reload_of_stands (falters : Cursor.Falters refuses placed) {current : Option Elements}
    (stands : placed current ahead stream.cursor) (others : RefusesOthers refuses stream.width ahead) :
    ∃ cursor,
      (ahead = [] ∧
        stream.reload = (.ok false, { stream with cursor := cursor, exhausted := true })) ∨
      (∃ fault, stream.reload = (.error fault, { stream with cursor := cursor }) ∧
        ∃ current', placed current' ahead cursor) ∨
      ∃ doc left, ahead = doc :: left ∧ (∃ current', placed current' left cursor) ∧
        ((∃ fault, refuses fault = true ∧
          stream.reload = (.error fault, { stream with cursor := cursor })) ∨
        stream.reload =
          (.ok true, { stream with cursor := cursor, pending := Bytes.ofWords doc.2 })) := by
  rcases falters.nextDoc stands with ⟨fault, next, failed, stands'⟩ | ⟨rfl, next, none_left⟩ |
    ⟨id, vector, rest, next, rfl, found, stands'⟩
  · exact ⟨next, .inr (.inl ⟨fault, by simp [reload, failed], stands'⟩)⟩
  · exact ⟨next, .inl ⟨rfl, by simp [reload, none_left]⟩⟩
  rcases falters.vector stands' with ⟨fault, behind, failed, refused, stands''⟩ |
    ⟨behind, read, stands''⟩
  · refine ⟨behind, .inr (.inr ⟨_, _, rfl, ⟨_, stands''⟩, .inl ⟨fault, refused, ?_⟩⟩)⟩
    simp [reload, found, failed]
  · refine ⟨behind, .inr (.inr ⟨_, _, rfl, ⟨_, stands''⟩, ?_⟩)⟩
    have reload_eq : stream.reload =
        if vector.length * 4 = stream.width then
          (.ok true, { stream with cursor := behind, pending := Bytes.ofWords vector })
        else
          (.error (wrongWidth vector.length stream.width), { stream with cursor := behind }) := by
      simp only [reload, found, read]
    by_cases fits : vector.length * 4 = stream.width
    · rw [if_pos fits] at reload_eq
      exact .inr reload_eq
    · rw [if_neg fits] at reload_eq
      exact .inl ⟨_, others _ List.mem_cons_self fits, reload_eq⟩

/-- **A read loses a document only if it fails at its vector.**

**Proof sketch.** By whether bytes are at hand. If they are, some of them are brought
(`readsFrom_deliver`); if not, the next document is taken up (`reload_of_stands`), where the end, a
failure at the cursor and a failure at the vector are told apart. -/
theorem read_of_faces (falters : Cursor.Falters refuses placed) (faces : Faces placed stream ahead)
    (others : RefusesOthers refuses stream.width ahead) (limit : Nat) :
    ReadsFrom refuses placed stream ahead (stream.read limit).1 (stream.read limit).2 ∧
      (stream.read limit).2.width = stream.width := by
  by_cases idle : limit = 0 ∨ stream.remaining = 0 ∨ stream.exhausted
  · rw [read, if_pos idle]
    exact ⟨.brings (List.nil_append _).symm (List.append_nil _) (Nat.zero_add _) faces, rfl⟩
  rw [read, if_neg idle]
  simp only [not_or, Bool.not_eq_true] at idle
  by_cases used_up : stream.pending = []
  · rw [if_pos (List.isEmpty_iff.mpr used_up)]
    cases faces with
    | ended seen => simp [seen] at idle
    | facing stands =>
      obtain ⟨cursor, ⟨rfl, none_left⟩ | ⟨fault, failed, _, stands'⟩ |
        ⟨doc, left, rfl, ⟨_, stands'⟩, ⟨fault, refused, failed⟩ | loaded⟩⟩ :=
        reload_of_stands falters stands others
      · rw [none_left]
        refine ⟨.brings (List.nil_append []).symm ?_ (Nat.zero_add _) (.ended rfl rfl), rfl⟩
        rw [encodeVectors_nil, List.append_nil, List.nil_append]
      · rw [failed]
        exact ⟨.fails rfl rfl (.facing stands'), rfl⟩
      · rw [failed]
        exact ⟨.loses rfl refused rfl rfl (.facing stands'), rfl⟩
      · rw [loaded]
        have at_hand : stream.pending ++ encodeVectors [doc] = Bytes.ofWords doc.2 := by
          rw [used_up, encodeVectors_cons, encodeVectors_nil, List.nil_append, List.append_nil]
        exact ⟨readsFrom_deliver
          { stream with cursor := cursor, pending := Bytes.ofWords doc.2 }
          List.singleton_append.symm at_hand rfl (.facing stands') limit, rfl⟩
  · rw [if_neg (by simpa using used_up)]
    exact ⟨readsFrom_deliver stream (List.nil_append _).symm (by simp) rfl faces limit, rfl⟩

/-! ### Many reads -/

/-- The bytes that reads brought, one after the other. -/
def brought (replies : List (Except Fault Bytes)) : Bytes :=
  replies.flatMap fun reply => match reply with
    | .ok bytes => bytes
    | .error _ => []

/-- How many reads failed with a fault of the named ones. -/
def refusals (refuses : Fault → Bool) (replies : List (Except Fault Bytes)) : Nat :=
  replies.countP fun reply => match reply with
    | .ok _ => false
    | .error fault => refuses fault

/-- What is read of documents of which some are lost: as many bytes of the others, in their order, as
the range has room for. No more of them are lost than reads failed with one of the named faults. -/
def Salvages (refuses : Fault → Bool) (docs : List (DocId × Elements)) (room : Nat)
    (replies : List (Except Fault Bytes)) : Prop :=
  ∃ kept : List (DocId × Elements), kept.Sublist docs ∧
    docs.length ≤ kept.length + refusals refuses replies ∧
    brought replies <+: (encodeVectors kept).take room

/-- Any number of reads bring the bytes at hand and those of all documents ahead but the lost ones.

**Proof sketch.** Induction on the reads. A document that is loaded is kept, one that is lost is
counted, and the others are left to the reads that follow. -/
theorem reads_of_faces (falters : Cursor.Falters refuses placed) (faces : Faces placed stream ahead)
    (others : RefusesOthers refuses stream.width ahead) (limits : List Nat) :
    ∃ (kept : List (DocId × Elements)) (rest : Bytes), kept.Sublist ahead ∧
      ahead.length ≤ kept.length + refusals refuses (stream.reads limits).1 ∧
      stream.pending ++ encodeVectors kept = brought (stream.reads limits).1 ++ rest ∧
      (brought (stream.reads limits).1).length ≤ stream.remaining := by
  induction limits generalizing stream ahead with
  | nil => exact ⟨ahead, _, List.Sublist.refl _, Nat.le_add_right _ _, rfl, Nat.zero_le _⟩
  | cons limit limits ih =>
    obtain ⟨reading, width_eq⟩ := read_of_faces falters faces others limit
    simp only [reads]
    generalize stream.read limit = result at reading width_eq ⊢
    obtain ⟨reply, next⟩ := result
    -- what is left to the other reads: what is behind the bytes, all, or what is behind the lost document
    cases reading with
    | @brings got _ loaded left ahead_eq bytes_eq counted faces' =>
      have others' : RefusesOthers refuses next.width left := by
        intro doc mem
        rw [width_eq]
        exact others doc (ahead_eq ▸ List.mem_append_right _ mem)
      obtain ⟨kept, rest, sublist, few, split, fits⟩ := ih faces' others'
      refine ⟨loaded ++ kept, rest, ?_, ?_, ?_, ?_⟩
      · rw [ahead_eq]
        exact sublist.append_left loaded
      · rw [ahead_eq, List.length_append, List.length_append, refusals, List.countP_cons]
        change _ ≤ _ + (refusals refuses _ + 0)
        omega
      · have front : encodeVectors (loaded ++ kept) = encodeVectors loaded ++ encodeVectors kept :=
          List.flatMap_append
        rw [front, ← List.append_assoc, bytes_eq, List.append_assoc, split]
        simp [brought]
      · change (got ++ brought _).length ≤ _
        rw [List.length_append]
        omega
    | fails pending_eq remaining_eq faces' =>
      obtain ⟨kept, rest, sublist, few, split, fits⟩ := ih faces' (width_eq ▸ others)
      refine ⟨kept, rest, sublist, ?_, ?_, ?_⟩
      · rw [refusals, List.countP_cons, ← refusals]
        exact Nat.le_trans few (by omega)
      · rw [← pending_eq, split]
        rfl
      · exact Nat.le_trans fits (Nat.le_of_eq remaining_eq)
    | @loses fault _ doc left ahead_eq refused pending_eq remaining_eq faces' =>
      have others' : RefusesOthers refuses next.width left := by
        intro doc' mem
        rw [width_eq]
        exact others doc' (ahead_eq ▸ List.mem_cons_of_mem _ mem)
      obtain ⟨kept, rest, sublist, few, split, fits⟩ := ih faces' others'
      refine ⟨kept, rest, ?_, ?_, ?_, ?_⟩
      · rw [ahead_eq]
        exact sublist.cons doc
      · rw [ahead_eq, List.length_cons, refusals, List.countP_cons, if_pos refused, ← refusals]
        omega
      · rw [← pending_eq, split]
        rfl
      · exact Nat.le_trans fits (Nat.le_of_eq remaining_eq)

/-- **Any number of reads, going on after failures, bring the bytes of all documents but those that
were lost.** -/
theorem salvages_reads (falters : Cursor.Falters refuses placed) (faces : Faces placed stream ahead)
    (others : RefusesOthers refuses stream.width ahead) (fresh : stream.pending = [])
    (limits : List Nat) : Salvages refuses ahead stream.remaining (stream.reads limits).1 := by
  obtain ⟨kept, rest, sublist, few, split, fits⟩ := reads_of_faces falters faces others limits
  refine ⟨kept, sublist, few, ?_⟩
  rw [fresh, List.nil_append] at split
  rw [split]
  exact List.prefix_take_iff.mpr ⟨List.prefix_append _ _, fits⟩

/-- A stream that could be started is before the documents from its offset on. -/
theorem faces_of_start (falters : Cursor.Falters refuses placed) {cursor : σ}
    {current : Option Elements} (stands : placed current docs cursor)
    {bytesPerVector offset : UInt64} {length : Option UInt64}
    (started : start cursor bytesPerVector offset length = .ok stream) :
    Faces placed stream (docs.drop (offset.toNat / bytesPerVector.toNat)) ∧
      stream.width = bytesPerVector.toNat ∧ stream.pending = [] ∧
      stream.remaining = (length.map UInt64.toNat).getD unbounded ∧
      0 < bytesPerVector.toNat ∧ bytesPerVector.toNat ∣ offset.toNat := by
  simp only [start] at started
  split at started
  · cases started
  rename_i aligned
  simp only [not_or, not_not] at aligned
  split at started
  · cases started
  rename_i ended after skipped
  obtain rfl := Except.ok.inj started
  refine ⟨?_, rfl, rfl, rfl, Nat.pos_of_ne_zero aligned.1, Nat.dvd_of_mod_eq_zero aligned.2⟩
  rcases falters.skip stands skipped with ⟨current', stands'⟩ | ⟨seen, none_left⟩
  · exact .facing stands'
  · exact .ended seen none_left

/-- Reading to the end is many reads, of which only interrupted ones fail if none broke it off.

**Proof sketch.** Induction on the attempts: each is one read of a whole vector, after which reading
goes on if it brought bytes or was interrupted. -/
theorem exists_reads_of_readUpTo (attempts : Nat) (stream : VectorStream σ) :
    ∃ limits, (readUpTo attempts stream).bytes = brought (stream.reads limits).1 ∧
      ((readUpTo attempts stream).fault = none →
        ∀ fault, .error fault ∈ (stream.reads limits).1 → fault.kind = .interrupted) := by
  induction attempts generalizing stream with
  | zero => exact ⟨[], rfl, by simp [reads]⟩
  | succ attempts ih =>
    have one : ∀ reply next, stream.read stream.width = (reply, next) →
        (stream.reads [stream.width]).1 = [reply] := by
      intro reply next read_eq
      simp [reads, read_eq]
    have more : ∀ reply next limits, stream.read stream.width = (reply, next) →
        (stream.reads (stream.width :: limits)).1 = reply :: (next.reads limits).1 := by
      intro reply next limits read_eq
      simp [reads, read_eq]
    rw [readUpTo]
    split
    · rename_i fault next read_eq
      split
      · rename_i interrupted
        obtain ⟨limits, bytes_eq, clean⟩ := ih next
        refine ⟨stream.width :: limits, ?_, ?_⟩
        · rw [more _ _ limits read_eq, bytes_eq]
          rfl
        · intro unbroken fault' mem
          rw [more _ _ limits read_eq] at mem
          rcases List.mem_cons.mp mem with same | mem
          · rw [Except.error.inj same]
            exact interrupted
          · exact clean unbroken fault' mem
      · refine ⟨[stream.width], ?_, by simp⟩
        rw [one _ _ read_eq]
        rfl
    · rename_i next read_eq
      refine ⟨[stream.width], ?_, ?_⟩
      · rw [one _ _ read_eq]
        rfl
      · rw [one _ _ read_eq]
        simp
    · rename_i bytes next some_bytes read_eq
      obtain ⟨limits, bytes_eq, clean⟩ := ih next
      refine ⟨stream.width :: limits, ?_, ?_⟩
      · rw [more _ _ limits read_eq]
        exact congrArg (bytes ++ ·) bytes_eq
      · intro unbroken fault' mem
        rw [more _ _ limits read_eq] at mem
        rcases List.mem_cons.mp mem with same | mem
        · cases same
        · exact clean unbroken fault' mem

/-- Where nothing was refused nothing is lost. -/
theorem Salvages.brought_of_unrefused {room : Nat} {replies : List (Except Fault Bytes)}
    (salvages : Salvages refuses docs room replies)
    (unrefused : ∀ fault, .error fault ∈ replies → refuses fault = false) :
    brought replies <+: (encodeVectors docs).take room := by
  obtain ⟨kept, sublist, few, takes⟩ := salvages
  have none_refused : refusals refuses replies = 0 := by
    refine List.countP_eq_zero.mpr fun reply mem => ?_
    cases reply with
    | ok bytes => simp
    | error fault => simp [unrefused fault mem]
  have all_kept : kept = docs := sublist.eq_of_length_le (by omega)
  exact all_kept ▸ takes

end VectorStream

/-! ### Corpora -/

namespace Corpus

open VectorStream

variable {corpus : Corpus σ}

/-- A part that could be read is what many reads of its stream brought, of which only interrupted ones
failed. -/
theorem exists_reads_of_readPart {key : String} {part : Part} {data : part.Data}
    (read : corpus.readPart key part = .ok data) :
    ∃ stream limits, corpus.stream part.offset (some part.length) = .ok stream ∧
      data.val = brought (stream.reads limits).1 ∧
      ∀ fault, .error fault ∈ (stream.reads limits).1 → fault.kind = .interrupted := by
  rw [readPart] at read
  split at read
  · cases read
  rename_i stream opened
  obtain ⟨limits, bytes_eq, clean⟩ :=
    exists_reads_of_readUpTo (stream.remaining + walkLimit) stream
  refine ⟨stream, limits, opened, ?_⟩
  rw [readToEnd] at read
  generalize readUpTo (stream.remaining + walkLimit) stream = reading at read bytes_eq clean
  obtain ⟨bytes, fault, _⟩ := reading
  cases fault with
  | some fault => cases read
  | none =>
    simp only [Part.receive] at read
    split at read
    · obtain rfl := Except.ok.inj read
      exact ⟨bytes_eq, clean rfl⟩
    · cases read

/-- What is read of a corpus whose cursors may fail at any call. Reads that go on after failures bring
the bytes of the range, but for documents that a read failed at the vector of; if there are none, and
all vectors are of the expected width, they bring the front of the range. A part that is complete is
made of documents in their order, and is the slice that was asked for unless a vector could not be had
because the call was interrupted. -/
structure Faltering (corpus : Corpus σ) (refuses : Fault → Bool) (docs : List (DocId × Elements)) :
    Prop where
  reads : ∀ offset length stream, corpus.stream offset length = .ok stream → ∀ limits,
    Salvages refuses (docs.drop (offset.toNat / corpus.shape.bytesPerVector.toNat))
      ((length.map UInt64.toNat).getD unbounded) (stream.reads limits).1
  unbroken : (∀ doc ∈ docs, 4 * doc.2.length = corpus.shape.bytesPerVector.toNat) →
    ∀ offset length stream, corpus.stream offset length = .ok stream → ∀ limits,
      (∀ fault, .error fault ∈ (stream.reads limits).1 → refuses fault = false) →
        brought (stream.reads limits).1 <+:
          (encodeVectors docs).slice (offset.toNat, (length.map UInt64.toNat).getD unbounded)
  parts : ∀ key part data, corpus.readPart key part = .ok data →
    ∃ kept : List (DocId × Elements),
      kept.Sublist (docs.drop (part.offset.toNat / corpus.shape.bytesPerVector.toNat)) ∧
      data.val = (encodeVectors kept).take part.length.toNat
  uninterrupted : (∀ doc ∈ docs, 4 * doc.2.length = corpus.shape.bytesPerVector.toNat) →
    (∀ fault, fault.kind = .interrupted → refuses fault = false) →
      ∀ key part data, corpus.readPart key part = .ok data →
        data.val = (encodeVectors docs).slice (part.offset.toNat, part.length.toNat)

/-- A prefix of a slice that is as long as was asked for is the slice. -/
theorem eq_take_of_prefix {bytes whole : Bytes} {length : Nat} (takes : bytes <+: whole.take length)
    (length_eq : bytes.length = length) : bytes = whole.take length := by
  refine takes.eq_of_length_le ?_
  rw [length_eq]
  exact List.length_take_le _ _

/-- **What is read of a corpus whose cursors may fail at any call.**

**Proof sketch.** Streams start past whole documents (`faces_of_start`), and what their reads bring is
known from the documents ahead (`salvages_reads`). What is read for a part is many reads
(`exists_reads_of_readPart`), so that the same is known of it; where all vectors have one width, the
bytes from a document on are those from an offset on. -/
theorem faltering {cursor : σ} (opened : corpus.openCursor = .ok cursor)
    (standing : Cursor.Over refuses docs cursor)
    (others : RefusesOthers refuses corpus.shape.bytesPerVector.toNat docs) :
    corpus.Faltering refuses docs := by
  obtain ⟨placed, current, falters, stands⟩ := standing
  have reading : ∀ offset length stream, corpus.stream offset length = .ok stream →
      (∀ limits, Salvages refuses (docs.drop (offset.toNat / corpus.shape.bytesPerVector.toNat))
        ((length.map UInt64.toNat).getD unbounded) (stream.reads limits).1) ∧
      corpus.shape.bytesPerVector.toNat ∣ offset.toNat := by
    intro offset length stream started
    unfold Corpus.stream at started
    split at started
    · cases started
    rw [opened] at started
    obtain ⟨faces, width_eq, fresh, remaining_eq, _, aligned⟩ := faces_of_start falters stands started
    refine ⟨fun limits => remaining_eq ▸ salvages_reads falters faces ?_ fresh limits, aligned⟩
    intro doc mem
    rw [width_eq]
    exact others doc (List.mem_of_mem_drop mem)
  -- with one width for all vectors, to leave out documents is to leave out bytes
  have slice_eq : (∀ doc ∈ docs, 4 * doc.2.length = corpus.shape.bytesPerVector.toNat) →
      ∀ offset : UInt64, corpus.shape.bytesPerVector.toNat ∣ offset.toNat → ∀ room,
        (encodeVectors (docs.drop (offset.toNat / corpus.shape.bytesPerVector.toNat))).take room =
          (encodeVectors docs).slice (offset.toNat, room) := by
    intro uniform offset aligned room
    rw [← drop_encodeVectors uniform, Nat.div_mul_cancel aligned]
    rfl
  constructor
  case reads => exact fun offset length stream started => (reading offset length stream started).1
  case unbroken =>
    intro uniform offset length stream started limits unrefused
    obtain ⟨salvages, aligned⟩ := reading offset length stream started
    rw [← slice_eq uniform offset aligned]
    exact (salvages limits).brought_of_unrefused unrefused
  case parts =>
    intro key part data read
    obtain ⟨stream, limits, started, data_eq, _⟩ := exists_reads_of_readPart read
    obtain ⟨kept, sublist, _, takes⟩ := (reading _ _ stream started).1 limits
    refine ⟨kept, sublist, eq_take_of_prefix ?_ data.property⟩
    rw [data_eq]
    exact takes
  case uninterrupted =>
    intro uniform uninterrupted key part data read
    obtain ⟨stream, limits, started, data_eq, only_interrupted⟩ := exists_reads_of_readPart read
    obtain ⟨salvages, aligned⟩ := reading _ _ stream started
    have takes := (salvages limits).brought_of_unrefused fun fault mem =>
      uninterrupted fault (only_interrupted fault mem)
    rw [← data_eq] at takes
    rw [← slice_eq uniform part.offset aligned]
    exact eq_take_of_prefix takes data.property

end Corpus

/-! ### Planned faults -/

/-- A cursor in memory whose calls fail as planned; when the plan is over no other call fails. -/
structure FalteringCursor where
  cursor : MemoryCursor
  /-- The fault of each call to come, if it is to fail. -/
  plan : List (Option Fault)

namespace FalteringCursor

/-- A call fails if a failure is due, and is passed on if none is. -/
instance : Cursor FalteringCursor where
  nextDoc faltering :=
    match faltering.plan.head?.join with
    | some fault => (.error fault, { faltering with plan := faltering.plan.tail })
    | none => (Cursor.nextDoc faltering.cursor).map id (⟨·, faltering.plan.tail⟩)
  vector faltering :=
    match faltering.plan.head?.join with
    | some fault => (.error fault, { faltering with plan := faltering.plan.tail })
    | none => (Cursor.vector faltering.cursor).map id (⟨·, faltering.plan.tail⟩)

/-- A cursor in memory falters wherever it is planned.

**Proof sketch.** By whether a failure is due. If it is, the cursor stays where it is and forgets it; if
not, it does what a cursor in memory does. -/
theorem falters (refuses : Fault → Bool) :
    Cursor.Falters refuses fun current ahead (faltering : FalteringCursor) =>
      faltering.cursor = ⟨ahead, current⟩ ∧
        ∀ fault, some fault ∈ faltering.plan → refuses fault = true := by
  have later : ∀ {plan : List (Option Fault)}, (∀ fault, some fault ∈ plan → refuses fault = true) →
      ∀ fault, some fault ∈ plan.tail → refuses fault = true :=
    fun planned fault mem => planned fault (List.mem_of_mem_tail mem)
  constructor
  case nextDoc =>
    rintro current ahead ⟨cursor, plan⟩ ⟨rfl, planned⟩
    cases due : plan.head?.join with
    | some fault =>
      refine .inl ⟨fault, ⟨⟨ahead, current⟩, plan.tail⟩, ?_, current, rfl, later planned⟩
      simp only [Cursor.nextDoc, due]
    | none =>
      cases ahead with
      | nil =>
        refine .inr (.inl ⟨rfl, ⟨⟨[], none⟩, plan.tail⟩, ?_⟩)
        simp only [Cursor.nextDoc, due]
        rfl
      | cons doc rest =>
        refine .inr (.inr ⟨doc.1, doc.2, rest, ⟨⟨rest, some doc.2⟩, plan.tail⟩, rfl, ?_, rfl,
          later planned⟩)
        simp only [Cursor.nextDoc, due]
        rfl
  case vector =>
    rintro current ahead ⟨cursor, plan⟩ ⟨rfl, planned⟩
    cases due : plan.head?.join with
    | some fault =>
      refine .inl ⟨fault, ⟨⟨ahead, some current⟩, plan.tail⟩, ?_, ?_, rfl, later planned⟩
      · simp only [Cursor.vector, due]
      · refine planned fault ?_
        rw [Option.join_eq_some_iff] at due
        exact List.mem_of_head? due
    | none =>
      refine .inr ⟨⟨⟨ahead, some current⟩, plan.tail⟩, ?_, rfl, later planned⟩
      simp only [Cursor.vector, due]
      rfl

/-- A call that was interrupted. -/
def interrupted : Fault := ⟨.interrupted, "interrupted"⟩

/-- Two documents with vectors of one element. -/
def twoDocs : List (DocId × Elements) := [(0, [1]), (1, [2])]

/-- A corpus whose cursors are interrupted once, at the vector of the first document. -/
def interruptedOnce : Corpus FalteringCursor :=
  ⟨{ dimension := 1, liveCount := 2 }, .ok ⟨⟨twoDocs, none⟩, [none, some interrupted]⟩⟩

/-- The cursor has both documents ahead of it. -/
theorem over_interruptedOnce :
    ∃ cursor, interruptedOnce.openCursor = .ok cursor ∧ Cursor.Over (· == interrupted) twoDocs cursor := by
  refine ⟨_, rfl, _, none, falters _, rfl, ?_⟩
  intro fault mem
  simpa using mem

/-- All that is said of faltering corpora holds of it. -/
theorem faltering_interruptedOnce :
    VectorStream.RefusesOthers (· == interrupted) interruptedOnce.shape.bytesPerVector.toNat twoDocs ∧
      interruptedOnce.Faltering (· == interrupted) twoDocs := by
  have others :
      VectorStream.RefusesOthers (· == interrupted) interruptedOnce.shape.bytesPerVector.toNat twoDocs := by
    unfold VectorStream.RefusesOthers
    decide
  obtain ⟨cursor, opened, standing⟩ := over_interruptedOnce
  exact ⟨others, Corpus.faltering opened standing others⟩

/-- Three documents, the second of which has a vector of two elements where one is expected. -/
def unevenScript : ScriptedCorpus where
  shape := { dimension := 1, liveCount := 3 }
  ids := [0, 1, 2]
  vectors := [[0x3f800000], [0x40000000, 0x40400000], [0x40800000]]

/-- **A read that fails skips data.** Where the second of three vectors is refused, the next read brings
the third one. Where the vector of the first of two documents could not be had because the call was
interrupted, the next read brings that of the second one, and the part that was to hold the first
vector is complete and holds the second. -/
theorem skips_refused_vector :
    (∃ stream, unevenScript.toCorpus.stream 0 (some 12) = .ok stream ∧
      (stream.reads [4, 4, 4]).1 = [.ok (Bytes.ofWord 0x3f800000),
        .error (VectorStream.wrongWidth 2 4), .ok (Bytes.ofWord 0x40800000)] ∧
      ¬ VectorStream.brought (stream.reads [4, 4, 4]).1 <+:
        encodeVectors (unevenScript.ids.zip unevenScript.vectors)) ∧
    (∃ stream, interruptedOnce.stream 0 none = .ok stream ∧
      (stream.reads [4, 4]).1 = [.error interrupted, .ok (Bytes.ofWord 2)] ∧
      ¬ VectorStream.brought (stream.reads [4, 4]).1 <+: encodeVectors twoDocs) ∧
    (∃ data, interruptedOnce.readPart "k" ⟨0, 0, 4⟩ = .ok data ∧ data.val = Bytes.ofWord 2) ∧
    (encodeVectors twoDocs).slice (0, 4) = Bytes.ofWord 1 := by
  refine ⟨⟨_, rfl, rfl, ?_⟩, ⟨_, rfl, rfl, ?_⟩, ⟨⟨Bytes.ofWord 2, rfl⟩, ?_, rfl⟩, rfl⟩
  · decide
  · decide
  · decide +kernel

end FalteringCursor

end GraphOffload

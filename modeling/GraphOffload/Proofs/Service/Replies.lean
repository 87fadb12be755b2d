import GraphOffload.Job.Status
import GraphOffload.Proofs.Json.Values
import Mathlib.Data.List.Forall2

/-!
# What a service says of a job, told again

A service may put one status in several words, in capitals or not, and leave out parts of a reply or
say null in their place; it may even use words that mean nothing to its clients. Whoever tells a reply
again chooses among all of these once. Nothing of the meaning is lost on the way: the reply is
understood as it was before.

## Main definitions

* `GraphOffload.Text.SameButCase` : texts that are the same but for capital ASCII letters.
* `GraphOffload.JobStatus.words` : the words that a status is known by.
* `GraphOffload.StatusReply.Tellable` : replies that a message can hold.

## Main results

* `GraphOffload.Text.lower_eq_lower_iff` : texts that are one in lower case.
* `GraphOffload.JobStatus.ofWord_of_mem_words`, `GraphOffload.JobStatus.ofWord_of_unknown` : what a word
  means.
* `GraphOffload.StatusReply.exists_decode_iff` : the replies that are understood from messages are those
  that a message can hold.
* `GraphOffload.StatusReply.toJson_keepsMeaning` : a reply that is told again means the same.
-/

namespace GraphOffload

/-! ### Capital letters -/

namespace Text

/-- A capital ASCII letter, and the small one that belongs to it. -/
def CapitalOf (small capital : Char) : Prop :=
  'A' ≤ capital ∧ capital ≤ 'Z' ∧ small.toNat = capital.toNat + 32

/-- Two texts are the same but for capital ASCII letters. -/
def SameButCase (text other : String) : Prop :=
  List.Forall₂ (fun c d => c = d ∨ CapitalOf c d ∨ CapitalOf d c) text.toList other.toList

/-- The capital letters by their numbers. -/
theorem capital_iff (c : Char) : 'A' ≤ c ∧ c ≤ 'Z' ↔ 65 ≤ c.toNat ∧ c.toNat ≤ 90 :=
  and_congr UInt32.le_iff_toNat_le UInt32.le_iff_toNat_le

/-- In lower case a capital letter stands thirty-two places further on. -/
theorem toNat_toLower (c : Char) :
    c.toLower.toNat = if 65 ≤ c.toNat ∧ c.toNat ≤ 90 then c.toNat + 32 else c.toNat := by
  by_cases capital : c.val ≥ 'A'.val ∧ c.val ≤ 'Z'.val
  · have moved : c.toLower.val = c.val + 32 := congrArg Char.val (dif_pos capital)
    have numbers := (capital_iff c).mp capital
    have places : (32 : UInt32).toNat = 32 := rfl
    rw [if_pos numbers, ← Char.toNat_val, moved, UInt32.toNat_add, Char.toNat_val, places]
    exact Nat.mod_eq_of_lt (by omega)
  · rw [if_neg ((capital_iff c).not.mp capital)]
    exact congrArg Char.toNat (dif_neg capital)

/-- Characters that are one in lower case. -/
theorem toLower_eq_toLower_iff (c d : Char) :
    c.toLower = d.toLower ↔ c = d ∨ CapitalOf c d ∨ CapitalOf d c := by
  simp only [CapitalOf, ← and_assoc, capital_iff, ← Char.toNat_inj, toNat_toLower]
  split <;> split <;> omega

/-- **Texts that are one in lower case** are the same but for capital letters. -/
theorem lower_eq_lower_iff (text other : String) : lower text = lower other ↔ SameButCase text other := by
  rw [lower, lower, String.ofList_inj, ← List.forall₂_eq_eq_eq, List.forall₂_map_left_iff,
    List.forall₂_map_right_iff, SameButCase]
  simp only [toLower_eq_toLower_iff]

/-- Whether two texts differ in capital letters only can be found out. -/
instance (text other : String) : Decidable (SameButCase text other) :=
  decidable_of_iff _ (lower_eq_lower_iff text other)

end Text

/-! ### Words for a status -/

namespace JobStatus

/-- The words that a status is known by, in lower case. -/
def words : List (String × JobStatus) :=
  [("pending", .pending), ("in_progress", .inProgress), ("running", .inProgress),
    ("completed", .completed), ("failed", .failed)]

/-- What a word means is looked up in lower case. -/
theorem ofWord_eq (word : String) :
    ofWord word = (words.lookup (Text.lower word)).getD (.unknown word) := by
  simp only [ofWord, words, Json.Members.lookup_cons_eq_if]
  split_ifs <;> simp_all

/-- **A word that a status is known by means that status**, also with capital letters. -/
theorem ofWord_of_mem_words {word known : String} {status : JobStatus} (mem : (known, status) ∈ words)
    (same : Text.SameButCase word known) : ofWord word = status := by
  have means : ∀ entry ∈ words, words.lookup (Text.lower entry.1) = some entry.2 := by decide
  rw [ofWord_eq, (Text.lower_eq_lower_iff word known).mpr same, means _ mem, Option.getD_some]

/-- **Any other word stands for itself.** -/
theorem ofWord_of_unknown {word : String} (unknown : ∀ known ∈ words, ¬ Text.SameButCase word known.1) :
    ofWord word = .unknown word := by
  -- the known words are in lower case themselves
  have lower_self : ∀ entry ∈ words, Text.lower entry.1 = entry.1 := by decide
  have missing : words.lookup (Text.lower word) = none := by
    refine Json.Members.lookup_eq_none fun mem => ?_
    obtain ⟨entry, known, same⟩ := List.mem_map.mp mem
    refine unknown entry known ((Text.lower_eq_lower_iff word entry.1).mp ?_)
    rw [lower_self entry known, same]
  rw [ofWord_eq, missing, Option.getD_none]

/-- A word is known, or stands for itself. -/
theorem ofWord_cases (word : String) :
    (∃ known ∈ words, Text.SameButCase word known.1 ∧ ofWord word = known.2) ∨
      ofWord word = .unknown word := by
  by_cases known : ∃ known ∈ words, Text.SameButCase word known.1
  · obtain ⟨known, mem, same⟩ := known
    exact .inl ⟨known, mem, same, ofWord_of_mem_words mem same⟩
  · exact .inr (ofWord_of_unknown fun other mem same => known ⟨other, mem, same⟩)

/-- The word for a status that was understood means that status. -/
theorem ofWord_word_ofWord (word : String) : ofWord (ofWord word).word = ofWord word := by
  have own_word : ∀ known ∈ words, ofWord known.2.word = known.2 := by decide
  rcases ofWord_cases word with ⟨known, mem, _, means⟩ | unknown
  · rw [means, own_word known mem]
  · rw [unknown]
    exact unknown

/-- **By two words a job comes to an end.** -/
theorem isTerminal_ofWord_iff (word : String) :
    (ofWord word).isTerminal = true ↔
      Text.SameButCase word "completed" ∨ Text.SameButCase word "failed" := by
  constructor
  · intro terminal
    rcases ofWord_cases word with ⟨known, mem, same, means⟩ | unknown
    · have two : ∀ known ∈ words, known.2.isTerminal = true →
          known.1 = "completed" ∨ known.1 = "failed" := by decide
      rw [means] at terminal
      rcases two known mem terminal with completed | failed
      · exact .inl (completed ▸ same)
      · exact .inr (failed ▸ same)
    · rw [unknown] at terminal
      exact nomatch terminal
  · rintro (completed | failed)
    · have means : ofWord word = .completed := ofWord_of_mem_words (by decide) completed
      rw [means]
      rfl
    · have means : ofWord word = .failed := ofWord_of_mem_words (by decide) failed
      rw [means]
      rfl

end JobStatus

/-! ### Messages -/

open Json (Decoder Document)

namespace GraphLocation

/-- A message can hold the location: what it says of the build is a canonical value, and not null, which
would mean that nothing is said. -/
def Tellable (location : GraphLocation) : Prop :=
  ∀ stats ∈ location.stats, stats.Canonical ∧ stats ≠ .null

/-- A location that was understood can be told. -/
theorem tellable_of_decode {depth : Document.Depth} {document : Document} {location : GraphLocation}
    (decoded : decode depth document = some location) : location.Tellable := by
  simp only [decode, Option.bind_eq_bind, Option.bind_eq_some_iff] at decoded
  obtain ⟨⟨inner, fields⟩, _, built⟩ := decoded
  split at built
  · simp only [Option.bind_eq_some_iff] at built
    obtain ⟨_, _, _, _, stats, stats_read, same⟩ := built
    obtain rfl := Option.some.inj same
    rintro value rfl
    -- null would have been taken for nothing
    obtain ⟨document, some_document, value_read⟩ := Decoder.exists_of_optional stats_read
    refine ⟨Document.canonical_of_value? value_read, ?_⟩
    rintro rfl
    exact some_document (Document.value?_eq_null_iff.mp value_read)
  · cases built

/-- No two members of a location have one name. -/
theorem nodup_members (location : GraphLocation) : (location.members.map Prod.fst).Nodup := by
  obtain ⟨_, _, stats⟩ := location
  cases stats <;> simp [members]

/-- The fields that a message about a location has. -/
theorem fields_toJson (location : GraphLocation) :
    Decoder.fields [["bucketName"], ["graphFileLocation"], ["stats"]] none location.toJson.toDocument =
      some (none, [some (.string (some location.bucketName)), some (.string (some location.graphKey)),
        location.stats.map Json.toDocument]) := by
  refine (Decoder.fields_ofMembers location.nodup_members
    ["bucketName", "graphFileLocation", "stats"]).trans ?_
  obtain ⟨_, _, stats⟩ := location
  cases stats <;> rfl

/-- **A location that can be told is understood when it is.** -/
theorem decode_toJson {location : GraphLocation} (tellable : location.Tellable) :
    decode none location.toJson.toDocument = some location := by
  have stats : Decoder.optional Decoder.value none (location.stats.map Json.toDocument) =
      some location.stats := by
    refine Decoder.optional_map fun value held => ?_
    obtain ⟨canonical, some_value⟩ := tellable value held
    exact ⟨Json.toDocument_eq_null_iff.not.mpr some_value, canonical.value?_toDocument⟩
  rw [decode, fields_toJson]
  simp only [Option.bind_eq_bind, Option.bind_some, Decoder.required, Decoder.text, stats]
  rfl

end GraphLocation

namespace StatusReply

/-- A message can hold the reply: its status is what the word for it means, and its parts can be told. -/
structure Tellable (reply : StatusReply) : Prop where
  status : JobStatus.ofWord reply.status.word = reply.status
  result : ∀ location ∈ reply.result, location.Tellable

/-- A reply that was understood can be told. -/
theorem tellable_of_decode {depth : Document.Depth} {document : Document} {reply : StatusReply}
    (decoded : decode depth document = some reply) : reply.Tellable := by
  simp only [decode, Option.bind_eq_bind, Option.bind_eq_some_iff] at decoded
  obtain ⟨⟨inner, fields⟩, _, built⟩ := decoded
  split at built
  · simp only [Option.bind_eq_some_iff] at built
    obtain ⟨status, status_read, result, result_read, _, _, same⟩ := built
    obtain rfl := Option.some.inj same
    constructor
    · obtain ⟨_, _, word_read⟩ := Option.bind_eq_some_iff.mp status_read
      obtain ⟨word, _, rfl⟩ := Option.map_eq_some_iff.mp word_read
      exact JobStatus.ofWord_word_ofWord word
    · rintro location rfl
      obtain ⟨document, _, location_read⟩ := Decoder.exists_of_optional result_read
      exact GraphLocation.tellable_of_decode location_read
  · cases built

/-- No two members of a reply have one name. -/
theorem nodup_members (reply : StatusReply) : (reply.members.map Prod.fst).Nodup := by
  obtain ⟨_, result, error⟩ := reply
  cases result <;> cases error <;> simp [members]

/-- The fields that a reply has as a message. -/
theorem fields_toJson (reply : StatusReply) :
    Decoder.fields [["status"], ["result"], ["error"]] none reply.toJson.toDocument =
      some (none, [some (.string (some reply.status.word)),
        reply.result.map fun location => location.toJson.toDocument,
        reply.error.map fun error => .string (some error)]) := by
  refine (Decoder.fields_ofMembers reply.nodup_members ["status", "result", "error"]).trans ?_
  obtain ⟨_, result, error⟩ := reply
  cases result <;> cases error <;> rfl

/-- **A reply that can be told is understood when it is.** -/
theorem decode_toJson {reply : StatusReply} (tellable : reply.Tellable) :
    decode none reply.toJson.toDocument = some reply := by
  have result : Decoder.optional GraphLocation.decode none
      (reply.result.map fun location => location.toJson.toDocument) = some reply.result := by
    refine Decoder.optional_map fun location held => ⟨nofun, ?_⟩
    exact GraphLocation.decode_toJson (tellable.result location held)
  have error : Decoder.optional Decoder.text none
      (reply.error.map fun error => .string (some error)) = some reply.error :=
    Decoder.optional_map fun _ _ => ⟨nofun, rfl⟩
  rw [decode, fields_toJson]
  simp only [Option.bind_eq_bind, Option.bind_some, Decoder.required, JobStatus.decode, Decoder.text,
    Option.map_some, tellable.status, result, error]
  rfl

/-- **The replies that are understood** from messages, however deep these may be, are those that a message
can hold. -/
theorem exists_decode_iff (reply : StatusReply) :
    (∃ depth document, decode depth document = some reply) ↔ reply.Tellable :=
  ⟨fun ⟨_, _, decoded⟩ => tellable_of_decode decoded, fun tellable => ⟨none, _, decode_toJson tellable⟩⟩

/-- **A reply that is told again means the same.** The word for a status means that status; jobs come to an
end by two words, with capital letters or without; a word that means nothing is kept as it is. Whatever
value a reply is understood from, the reply is told by a value that it is understood from again.

**Proof sketch.** What is understood can be told, and what can be told is understood. -/
theorem toJson_keepsMeaning :
    (∀ word : String,
      JobStatus.ofWord (JobStatus.ofWord word).word = JobStatus.ofWord word ∧
      ((JobStatus.ofWord word).isTerminal = true ↔
        Text.SameButCase word "completed" ∨ Text.SameButCase word "failed") ∧
      (∀ known ∈ JobStatus.words, Text.SameButCase word known.1 → JobStatus.ofWord word = known.2) ∧
      ((∀ known ∈ JobStatus.words, ¬ Text.SameButCase word known.1) →
        JobStatus.ofWord word = .unknown word ∧ (JobStatus.ofWord word).word = word)) ∧
    ∀ (value : Json) (reply : StatusReply),
      Decoder.ofValue decode value = some reply → Decoder.ofValue decode reply.toJson = some reply := by
  constructor
  · intro word
    refine ⟨JobStatus.ofWord_word_ofWord word, JobStatus.isTerminal_ofWord_iff word, ?_, ?_⟩
    · intro known mem same
      exact JobStatus.ofWord_of_mem_words mem same
    · intro unknown
      have means := JobStatus.ofWord_of_unknown unknown
      exact ⟨means, congrArg JobStatus.word means⟩
  · intro value reply decoded
    exact decode_toJson (tellable_of_decode decoded)

/-- A message about a finished job, whose result is a list of parts. -/
def finishedMessage : Json :=
  .object [("error", .null), ("result", .array [.string "b", .string "graphs/g1",
    .object [("levels", .array [.null]), ("time", .number (.whole 1200))]]),
    ("status", .string "COMPLETED"), ("task", .string "x")]

/-- What the message says. -/
def finishedReply : StatusReply where
  status := .completed
  result := some ⟨"b", "graphs/g1",
    some (.object [("levels", .array [.null]), ("time", .number (.whole 1200))])⟩

/-- An unknown word stays, and a message of another form than is told means the same. -/
theorem toJson_keepsMeaning_finished_job :
    (∀ known ∈ JobStatus.words, ¬ Text.SameButCase "Queued" known.1) ∧
      JobStatus.ofWord "Queued" = .unknown "Queued" ∧
      ("completed", .completed) ∈ JobStatus.words ∧ Text.SameButCase "COMPLETED" "completed" ∧
      JobStatus.ofWord "COMPLETED" = .completed ∧
      Decoder.ofValue decode finishedMessage = some finishedReply ∧
      Decoder.ofValue decode finishedReply.toJson = some finishedReply := by
  obtain ⟨words, messages⟩ := toJson_keepsMeaning
  have unknown : ∀ known ∈ JobStatus.words, ¬ Text.SameButCase "Queued" known.1 := by decide
  have mem : ("completed", .completed) ∈ JobStatus.words := by decide
  have same : Text.SameButCase "COMPLETED" "completed" := by decide
  have decoded : Decoder.ofValue decode finishedMessage = some finishedReply := by rfl
  obtain ⟨_, _, _, kept⟩ := words "Queued"
  obtain ⟨_, _, means, _⟩ := words "COMPLETED"
  exact ⟨unknown, (kept unknown).1, mem, same, means _ mem same, decoded, messages _ _ decoded⟩

end StatusReply

end GraphOffload

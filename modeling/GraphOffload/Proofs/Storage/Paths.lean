import GraphOffload.Staging.Blobs
import GraphOffload.Storage.ObjectPath
import Mathlib.Algebra.Group.Nat.Defs
import Mathlib.Data.List.GetD
import Mathlib.Data.List.Nodup

/-!
# Keys and their paths

The path of a key keeps all of the key but a slash at either end. So keys which end differently lie
under different paths, and so do keys with the same prefix and different names after it: names are
all of one length, so that they stand at the same place of either path.

## Main definitions

* `GraphOffload.StagedKeys.Has` : the keys of the blobs of an attempt.

## Main results

* `GraphOffload.Ulid.text_injective` : different names are written differently.
* `GraphOffload.ObjectPath.toList_text` : a path is written as its key without the slashes at its
  ends.
* `GraphOffload.StagedKeys.paths_ne` : the two blobs of an attempt lie under different paths.
* `GraphOffload.StagedKeys.name_eq_of_path_eq` : blobs of different attempts lie under different
  paths.
-/

namespace GraphOffload

/-! ### Names -/

namespace Ulid

/-- Every digit has a letter. -/
theorem mod_lt_length_alphabet (n : Nat) : n % 32 < alphabet.length := by
  have length_eq : alphabet.length = 32 := by decide
  omega

/-- The letter of a number is the one at its remainder. -/
theorem digit_eq_get (n : Nat) : digit n = alphabet.get ⟨n % 32, mod_lt_length_alphabet n⟩ :=
  List.getD_eq_getElem _ _ (mod_lt_length_alphabet n)

/-- A digit tells the number below 32 that it stands for. -/
theorem mod_eq_of_digit_eq {m n : Nat} (same : digit m = digit n) : m % 32 = n % 32 := by
  have distinct : alphabet.Nodup := by decide
  rw [digit_eq_get, digit_eq_get] at same
  exact (List.Nodup.getElem_inj_iff distinct).mp same

/-- No digit is a slash. -/
theorem digit_ne_slash (n : Nat) : digit n ≠ '/' := by
  have no_slash : '/' ∉ alphabet := by decide
  rw [digit_eq_get]
  intro same
  exact no_slash (same ▸ List.get_mem _ _)

/-- The digits tell as much of a number as there is room for. -/
theorem mod_eq_of_digits_eq {count m n : Nat} (same : digits count m = digits count n) :
    m % 32 ^ count = n % 32 ^ count := by
  induction count generalizing m n with
  | zero => simp [Nat.mod_one]
  | succ count ih =>
    obtain ⟨high, low⟩ := List.append_inj' same rfl
    have low_eq : m % 32 = n % 32 := mod_eq_of_digit_eq (List.singleton_inj.mp low)
    rw [Nat.pow_succ', Nat.mod_mul, Nat.mod_mul, low_eq, ih high]

/-- Digits have no slash. -/
theorem slash_not_mem_digits (count n : Nat) : '/' ∉ digits count n := by
  induction count generalizing n with
  | zero => exact List.not_mem_nil
  | succ count ih =>
    intro mem
    rcases List.mem_append.mp mem with mem | mem
    · exact ih _ mem
    · exact digit_ne_slash n (List.mem_singleton.mp mem).symm

/-- No name starts with a slash, and none is empty. -/
theorem head?_chars_append_ne (name : Ulid) (rest : List Char) :
    (name.chars ++ rest).head? ≠ some '/' := by
  have length_eq := name.length_chars
  have no_slash : '/' ∉ name.chars := slash_not_mem_digits width name.toNat
  cases chars_eq : name.chars with
  | nil => simp [chars_eq, width] at length_eq
  | cons c chars =>
    rw [chars_eq] at no_slash
    intro first
    exact no_slash (Option.some.inj first ▸ List.mem_cons_self)

/-- Different names have different digits: they have enough of them for all their bits. -/
theorem chars_injective {name name' : Ulid} (same : name.chars = name'.chars) : name = name' := by
  have fits : 2 ^ 128 ≤ 32 ^ width := by decide
  have digits_eq := mod_eq_of_digits_eq same
  rw [Nat.mod_eq_of_lt (Nat.lt_of_lt_of_le name.isLt fits),
    Nat.mod_eq_of_lt (Nat.lt_of_lt_of_le name'.isLt fits)] at digits_eq
  exact BitVec.eq_of_toNat_eq digits_eq

/-- **Different names are written differently.** -/
theorem text_injective {name name' : Ulid} (same : name.text = name'.text) : name = name' :=
  chars_injective (String.ofList_injective same)

end Ulid

/-! ### Paths -/

namespace ObjectPath

variable {key : String} {path : ObjectPath}

/-- A path is written as its key without the slashes at its ends. -/
theorem toList_text (parsed : parse key = .ok path) :
    path.text.toList = dropTrailingSlash (dropLeadingSlash key.toList) := by
  unfold parse at parsed
  split at parsed
  · rename_i empty
    obtain rfl := Except.ok.inj parsed
    rw [empty]
    rfl
  · dsimp only at parsed
    split at parsed
    · exact nomatch parsed
    · obtain rfl := Except.ok.inj parsed
      simp [text, Function.comp_def, Text.join_split]

/-- The slash before a text is not one at its end, unless it is all of it. -/
theorem getLast?_dropLeadingSlash {text : List Char} {last : Char} (ends : text.getLast? = some last)
    (not_slash : last ≠ '/') : (dropLeadingSlash text).getLast? = some last := by
  unfold dropLeadingSlash
  split
  · rename_i rest
    cases rest with
    | nil => simp [not_slash.symm] at ends
    | cons c rest => simpa using ends
  · exact ends

/-- If a key does not end with a slash, its path is written as the key without the slash at its
start. -/
theorem toList_text_of_getLast? (parsed : parse key = .ok path) {last : Char}
    (ends : key.toList.getLast? = some last) (not_slash : last ≠ '/') :
    path.text.toList = dropLeadingSlash key.toList := by
  rw [toList_text parsed, dropTrailingSlash, getLast?_dropLeadingSlash ends not_slash,
    if_neg (by simpa using not_slash)]

/-- A path ends as its key does, if that is not with a slash. -/
theorem getLast?_text (parsed : parse key = .ok path) {last : Char}
    (ends : key.toList.getLast? = some last) (not_slash : last ≠ '/') :
    path.text.toList.getLast? = some last := by
  rw [toList_text_of_getLast? parsed ends not_slash, getLast?_dropLeadingSlash ends not_slash]

/-- What stands behind a common prefix is the same if the texts are but for a slash at their start,
as long as it does not start with one itself. -/
theorem eq_of_dropLeadingSlash_eq {front back back' : List Char} (not_slash : back.head? ≠ some '/')
    (not_slash' : back'.head? ≠ some '/')
    (same : dropLeadingSlash (front ++ back) = dropLeadingSlash (front ++ back')) : back = back' := by
  have kept {text : List Char} (not_slash : text.head? ≠ some '/') : dropLeadingSlash text = text := by
    unfold dropLeadingSlash
    split
    · exact absurd rfl not_slash
    · rfl
  cases front with
  | nil => rwa [List.nil_append, List.nil_append, kept not_slash, kept not_slash'] at same
  | cons c front =>
    by_cases slash : c = '/'
    · subst slash
      exact List.append_cancel_left same
    · have first {text : List Char} : (c :: text).head? ≠ some '/' := by simpa using slash
      rw [List.cons_append, List.cons_append, kept first, kept first] at same
      exact List.append_cancel_left (List.cons.inj same).2

end ObjectPath

/-! ### Keys of attempts -/

namespace StagedKeys

/-- A key ends as its ending does. -/
theorem getLast?_append {ending : String} {last : Char} (ends : ending.toList.getLast? = some last)
    (front : String) : (front ++ ending).toList.getLast? = some last := by
  rw [String.toList_append, List.getLast?_append, ends]
  rfl

/-- The ending of a vector blob ends in `c`. -/
theorem getLast?_vectorEnding : vectorEnding.toList.getLast? = some 'c' := by decide

/-- The ending of a blob of ids ends in `d`, so that it is the ending of no vector blob. -/
theorem getLast?_docIdEnding : docIdEnding.toList.getLast? = some 'd' := by decide

/-- **The two blobs of an attempt lie under different paths.** -/
theorem paths_ne {keyPrefix field buildUnit : String} {name : Ulid} {path path' : ObjectPath}
    (parsed : ObjectPath.parse (ofName keyPrefix name field buildUnit).vectorKey = .ok path)
    (parsed' : ObjectPath.parse (ofName keyPrefix name field buildUnit).docIdKey = .ok path') :
    path ≠ path' := by
  rintro rfl
  have vectors := ObjectPath.getLast?_text parsed (getLast?_append getLast?_vectorEnding _) (by decide)
  have docIds := ObjectPath.getLast?_text parsed' (getLast?_append getLast?_docIdEnding _) (by decide)
  exact absurd (vectors.symm.trans docIds) (by decide)

/-- The key is one of the two of an attempt. -/
def Has (keys : StagedKeys) (key : String) : Prop := key = keys.vectorKey ∨ key = keys.docIdKey

/-- A key is the prefix, the name and some text that does not end with a slash. -/
theorem Has.exists_rest {keyPrefix field buildUnit key : String} {name : Ulid}
    (has : (ofName keyPrefix name field buildUnit).Has key) :
    ∃ rest last, key.toList = keyPrefix.toList ++ (name.chars ++ rest) ∧
      key.toList.getLast? = some last ∧ last ≠ '/' := by
  rcases has with rfl | rfl
  · refine ⟨('_' :: field.toList) ++ ('_' :: buildUnit.toList) ++ vectorEnding.toList, 'c', ?_,
      getLast?_append getLast?_vectorEnding _, by decide⟩
    simp [ofName, Ulid.text]
  · refine ⟨('_' :: field.toList) ++ ('_' :: buildUnit.toList) ++ docIdEnding.toList, 'd', ?_,
      getLast?_append getLast?_docIdEnding _, by decide⟩
    simp [ofName, Ulid.text]

/-- **Blobs of attempts with the same prefix lie under different paths if their names differ.**

**Proof sketch.** But for a slash at its start, a path is the prefix, the name and the rest. All names
have the same length and none starts with a slash, so that they are the same part of the path. -/
theorem name_eq_of_path_eq {keyPrefix field field' buildUnit buildUnit' key key' : String}
    {name name' : Ulid} {path : ObjectPath} (has : (ofName keyPrefix name field buildUnit).Has key)
    (has' : (ofName keyPrefix name' field' buildUnit').Has key')
    (parsed : ObjectPath.parse key = .ok path) (parsed' : ObjectPath.parse key' = .ok path) :
    name = name' := by
  obtain ⟨rest, last, key_eq, ends, not_slash⟩ := has.exists_rest
  obtain ⟨rest', last', key_eq', ends', not_slash'⟩ := has'.exists_rest
  have text_eq := ObjectPath.toList_text_of_getLast? parsed ends not_slash
  have text_eq' := ObjectPath.toList_text_of_getLast? parsed' ends' not_slash'
  rw [key_eq] at text_eq
  rw [key_eq'] at text_eq'
  have behind := ObjectPath.eq_of_dropLeadingSlash_eq (name.head?_chars_append_ne rest)
    (name'.head?_chars_append_ne rest') (text_eq.symm.trans text_eq')
  have lengths : name.chars.length = name'.chars.length := by
    rw [Ulid.length_chars, Ulid.length_chars]
  exact Ulid.chars_injective (List.append_inj_left behind lengths)

/-- So all four blobs of two attempts lie under different paths. -/
theorem pairwise_paths_ne {keyPrefix field field' buildUnit buildUnit' : String} {name name' : Ulid}
    (differ : name ≠ name') :
    let keys := ofName keyPrefix name field buildUnit
    let keys' := ofName keyPrefix name' field' buildUnit'
    [keys.vectorKey, keys.docIdKey, keys'.vectorKey, keys'.docIdKey].Pairwise fun key key' =>
      ∀ path, ObjectPath.parse key = .ok path → ObjectPath.parse key' ≠ .ok path := by
  intro keys keys'
  have across {key key' : String} (has : keys.Has key) (has' : keys'.Has key') (path : ObjectPath)
      (parsed : ObjectPath.parse key = .ok path) : ObjectPath.parse key' ≠ .ok path :=
    fun parsed' => differ (name_eq_of_path_eq has has' parsed parsed')
  have within {keyPrefix field buildUnit : String} {name : Ulid} (path : ObjectPath)
      (parsed : ObjectPath.parse (ofName keyPrefix name field buildUnit).vectorKey = .ok path) :
      ObjectPath.parse (ofName keyPrefix name field buildUnit).docIdKey ≠ .ok path :=
    fun parsed' => paths_ne parsed parsed' rfl
  simp only [List.pairwise_cons, List.forall_mem_cons, List.not_mem_nil, IsEmpty.forall_iff,
    implies_true, List.Pairwise.nil, and_true]
  exact ⟨⟨within, across (.inl rfl) (.inl rfl), across (.inl rfl) (.inr rfl)⟩,
    ⟨across (.inr rfl) (.inl rfl), across (.inr rfl) (.inr rfl)⟩, within⟩

end StagedKeys

end GraphOffload

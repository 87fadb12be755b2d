import GraphOffload.Url.Path
import Mathlib.Tactic.SplitIfs

/-!
# Any text as a segment of a path

Percent signs make a segment of any text: what is written with them reads back as the bytes of the
text, and nothing in it ends the segment. Two kinds of texts do not get through. Tabs and line ends are
left out, and a segment that comes to one dot or two is taken for a place.

## Main definitions

* `GraphOffload.UrlPath.counted` : the characters of a text that a URL takes up.
* `GraphOffload.UrlPath.Nameable` : a text that a segment can stand for.
* `GraphOffload.UrlPath.enter` : where a text leads from a place.

## Main results

* `GraphOffload.Utf8.bytes_injective` : texts are told apart by their bytes.
* `GraphOffload.Percent.decode_encode` : what is written with percent signs reads back.
* `GraphOffload.UrlPath.isHere_encodeSegment`, `GraphOffload.UrlPath.isAbove_encodeSegment` : which texts
  are taken for places.
* `GraphOffload.UrlPath.push_eq` : what becomes of a path when a text is put at its end.
* `GraphOffload.UrlPath.enter_stays_iff` : which texts lead out of a place.
* `GraphOffload.UrlPath.enter_eq_iff` : which texts lead to a segment that stands for them.
-/

namespace GraphOffload

/-! ### UTF-8 -/

namespace Utf8

/-- The bytes of an array are read one after the other. -/
theorem toList_loop (array : ByteArray) (index : Nat) (before : Bytes) :
    ByteArray.toList.loop array index before = before.reverse ++ array.data.toList.drop index := by
  induction index, before using ByteArray.toList.loop.induct array with
  | case1 index before inside ih =>
    have next : array.data.toList.drop index =
        array.get! index :: array.data.toList.drop (index + 1) := by
      rw [List.drop_eq_getElem_cons (by simpa using inside)]
      simp [ByteArray.get!, inside]
    rw [ByteArray.toList.loop, if_pos inside, ih, next, List.reverse_cons, List.append_assoc]
    rfl
  | case2 index before outside =>
    have nothing : array.data.toList.drop index = [] := List.drop_of_length_le (by simpa using outside)
    rw [ByteArray.toList.loop, if_neg outside, nothing, List.append_nil]

/-- The bytes of a text are those in its memory. -/
theorem bytes_eq (text : String) : bytes text = text.toByteArray.data.toList := toList_loop _ 0 []

/-- The bytes of a text are those of its characters. -/
theorem bytes_ofList (text : List Char) :
    bytes (String.ofList text) = text.flatMap String.utf8EncodeChar := by
  simp [bytes_eq, List.utf8Encode]

/-- **Texts are told apart by their bytes.** -/
theorem bytes_injective : Function.Injective bytes := by
  intro text text' same
  rw [bytes_eq, bytes_eq] at same
  exact String.toByteArray_inj.mp (ByteArray.ext (Array.toList_inj.mp same))

end Utf8

/-! ### Percent signs -/

namespace Percent

/-- A hexadecimal digit has the value that it was written for. -/
theorem hexValue?_hexDigit : ∀ value < 16, hexValue? (hexDigit value) = some value := by decide

/-- A byte with a percent sign reads back. -/
theorem decode_ofByte_append (byte : UInt8) (rest : List Char) :
    decode (ofByte byte ++ rest) = byte :: decode rest := by
  have bound := byte.toNat_lt
  have high := hexValue?_hexDigit (byte.toNat / 16) (by omega)
  have low := hexValue?_hexDigit (byte.toNat % 16) (by omega)
  have value : 16 * (byte.toNat / 16) + byte.toNat % 16 = byte.toNat := Nat.div_add_mod _ _
  simp only [ofByte, List.cons_append, List.nil_append, decode, high, low, value, UInt8.ofNat_toNat]

/-- So do bytes in a row. -/
theorem decode_flatMap_ofByte_append (bytes : Bytes) (rest : List Char) :
    decode (bytes.flatMap ofByte ++ rest) = bytes ++ decode rest := by
  induction bytes with
  | nil => rfl
  | cons byte bytes ih =>
    rw [List.flatMap_cons, List.append_assoc, decode_ofByte_append, ih, List.cons_append]

/-- A character other than the percent sign reads as it stands. -/
theorem decode_cons {c : Char} (plain : c ≠ '%') (rest : List Char) :
    decode (c :: rest) = Utf8.bytes c.toString ++ decode rest := by
  rw [decode]
  exact fun _ _ _ same _ => plain same

/-- **What is written with percent signs reads back**, if percent signs are written so too. -/
theorem decode_encode {reserved : Char → Bool} (percent : reserved '%' = true) (text : List Char) :
    decode (encode reserved text) = Utf8.bytes (String.ofList text) := by
  induction text with
  | nil => rw [Utf8.bytes_ofList, List.flatMap_nil, encode, List.flatMap_nil, decode]
  | cons c rest ih =>
    have bytes_eq : Utf8.bytes (String.ofList (c :: rest)) =
        Utf8.bytes c.toString ++ Utf8.bytes (String.ofList rest) := by
      have first : Utf8.bytes c.toString = [c].flatMap String.utf8EncodeChar := Utf8.bytes_ofList [c]
      rw [first, Utf8.bytes_ofList, Utf8.bytes_ofList, ← List.flatMap_append]
      rfl
    rw [bytes_eq, ← ih, encode, List.flatMap_cons, ← encode, encodeChar]
    split
    · rename_i plain
      refine decode_cons (fun same => plain.2 ?_) _
      rw [same, percent]
    · exact decode_flatMap_ofByte_append _ _

/-- The signs that stand for a byte. -/
theorem mem_ofByte {byte : UInt8} {c : Char} (mem : c ∈ ofByte byte) :
    c = '%' ∨ ∃ value < 16, c = hexDigit value := by
  have bound := byte.toNat_lt
  simp only [ofByte, List.mem_cons, List.not_mem_nil, or_false] at mem
  rcases mem with rfl | rfl | rfl
  · exact .inl rfl
  · exact .inr ⟨_, by omega, rfl⟩
  · exact .inr ⟨_, by omega, rfl⟩

/-- A reserved character is not left in a text, unless it is a sign that stands for bytes. -/
theorem not_mem_encode {reserved : Char → Bool} {c : Char} (is_reserved : reserved c = true)
    (no_percent : c ≠ '%') (no_digit : ∀ value < 16, c ≠ hexDigit value) (text : List Char) :
    c ∉ encode reserved text := by
  intro mem
  obtain ⟨d, _, mem⟩ := List.mem_flatMap.mp mem
  rw [encodeChar] at mem
  split at mem
  · rename_i plain
    obtain rfl := List.mem_singleton.mp mem
    exact plain.2 is_reserved
  · obtain ⟨byte, _, mem⟩ := List.mem_flatMap.mp mem
    rcases mem_ofByte mem with same | ⟨value, bound, same⟩
    · exact no_percent same
    · exact no_digit value bound same

end Percent

/-! ### Segments -/

namespace UrlPath

/-- The characters of a text that a URL takes up. -/
def counted (text : List Char) : List Char := text.filter (!isIgnored ·)

/-- A segment reads back as the characters that count. -/
theorem decode_encodeSegment (text : List Char) :
    Percent.decode (encodeSegment text) = Utf8.bytes (String.ofList (counted text)) :=
  Percent.decode_encode rfl _

/-- Nothing in a segment ends it. -/
theorem not_mem_encodeSegment {c : Char} (ends : c ∈ ['/', '\\', '?', '#']) (text : List Char) :
    c ∉ encodeSegment text := by
  simp only [List.mem_cons, List.not_mem_nil, or_false] at ends
  rcases ends with rfl | rfl | rfl | rfl
  all_goals exact Percent.not_mem_encode (by decide) (by decide) (by decide) _

/-! ### Segments with a meaning -/

/-- A character is in lower case already, or one of the capital letters. -/
theorem toLower_eq_or (c : Char) : c.toLower = c ∨ ∃ letter < 26, c = Char.ofNat (65 + letter) := by
  by_cases capital : c.val ≥ 'A'.val ∧ c.val ≤ 'Z'.val
  · have lower : 65 ≤ c.toNat := UInt32.le_iff_toNat_le.mp capital.1
    have upper : c.toNat ≤ 90 := UInt32.le_iff_toNat_le.mp capital.2
    refine .inr ⟨c.toNat - 65, by omega, ?_⟩
    rw [Nat.add_sub_cancel' lower, Char.ofNat_toNat]
  · exact .inl (dif_neg capital)

/-- A character that no capital letter becomes is its own only lower case. -/
theorem eq_of_toLower {c d : Char} (no_letter : ∀ letter < 26, (Char.ofNat (65 + letter)).toLower ≠ d)
    (same : c.toLower = d) : c = d := by
  rcases toLower_eq_or c with lower | ⟨letter, bound, rfl⟩
  · exact lower.symm.trans same
  · exact absurd same (no_letter letter bound)

/-- A segment that begins with a dot in lower case reads as one, and goes on after it. -/
theorem decode_of_dot {segment rest : List Char} (dot : segment.map Char.toLower = '.' :: rest) :
    ∃ tail, Percent.decode segment = 46 :: Percent.decode tail ∧ tail.map Char.toLower = rest := by
  obtain ⟨c, tail, rfl, same, rest_eq⟩ := List.map_eq_cons_iff.mp dot
  obtain rfl : c = '.' := eq_of_toLower (by decide) same
  have first : Utf8.bytes '.'.toString = [46] := Utf8.bytes_ofList ['.']
  refine ⟨tail, ?_, rest_eq⟩
  rw [Percent.decode_cons (by decide), first]
  rfl

/-- So does one that begins with a dot written with a percent sign, in either case. -/
theorem decode_of_encoded_dot {segment rest : List Char}
    (dot : segment.map Char.toLower = '%' :: '2' :: 'e' :: rest) :
    ∃ tail, Percent.decode segment = 46 :: Percent.decode tail ∧ tail.map Char.toLower = rest := by
  obtain ⟨c, tail, rfl, same, dot⟩ := List.map_eq_cons_iff.mp dot
  obtain ⟨d, tail, rfl, same', dot⟩ := List.map_eq_cons_iff.mp dot
  obtain ⟨e, tail, rfl, same'', rest_eq⟩ := List.map_eq_cons_iff.mp dot
  obtain rfl : c = '%' := eq_of_toLower (by decide) same
  obtain rfl : d = '2' := eq_of_toLower (by decide) same'
  have high : Percent.hexValue? '2' = some 2 := rfl
  have low : Percent.hexValue? e = some 14 := by
    rcases toLower_eq_or e with lower | ⟨letter, bound, rfl⟩
    · obtain rfl : e = 'e' := lower.symm.trans same''
      rfl
    · have only : ∀ letter < 26, (Char.ofNat (65 + letter)).toLower = 'e' →
          Percent.hexValue? (Char.ofNat (65 + letter)) = some 14 := by decide
      exact only letter bound same''
  refine ⟨tail, ?_, rest_eq⟩
  rw [Percent.decode]
  simp only [high, low]
  rfl

/-- A segment without characters reads as no bytes. -/
theorem decode_of_nothing {segment : List Char} (nothing : segment.map Char.toLower = []) :
    Percent.decode segment = [] := by
  rw [List.map_eq_nil_iff.mp nothing, Percent.decode]

/-- A segment that means the place itself reads as one dot. -/
theorem decode_of_isHere {segment : List Char} (here : isHere segment = true) :
    Percent.decode segment = [46] := by
  have forms : String.ofList (segment.map Char.toLower) = "." ∨
      String.ofList (segment.map Char.toLower) = "%2e" := by simpa [isHere] using here
  have dot : ∃ tail, Percent.decode segment = 46 :: Percent.decode tail ∧
      tail.map Char.toLower = [] := by
    rcases forms with form | form
    · exact decode_of_dot (String.ofList_inj.mp form)
    · exact decode_of_encoded_dot (String.ofList_inj.mp form)
  obtain ⟨tail, decoded, nothing⟩ := dot
  rw [decoded, decode_of_nothing nothing]

/-- A segment that means the place above reads as two dots. -/
theorem decode_of_isAbove {segment : List Char} (above : isAbove segment = true) :
    Percent.decode segment = [46, 46] := by
  have forms : String.ofList (segment.map Char.toLower) = ".." ∨
      String.ofList (segment.map Char.toLower) = ".%2e" ∨
      String.ofList (segment.map Char.toLower) = "%2e." ∨
      String.ofList (segment.map Char.toLower) = "%2e%2e" := by simpa [isAbove] using above
  have dots : ∃ tail tail', Percent.decode segment = 46 :: Percent.decode tail ∧
      Percent.decode tail = 46 :: Percent.decode tail' ∧ tail'.map Char.toLower = [] := by
    rcases forms with form | form | form | form
    · obtain ⟨tail, decoded, rest_eq⟩ := decode_of_dot (String.ofList_inj.mp form)
      obtain ⟨tail', decoded', nothing⟩ := decode_of_dot rest_eq
      exact ⟨tail, tail', decoded, decoded', nothing⟩
    · obtain ⟨tail, decoded, rest_eq⟩ := decode_of_dot (String.ofList_inj.mp form)
      obtain ⟨tail', decoded', nothing⟩ := decode_of_encoded_dot rest_eq
      exact ⟨tail, tail', decoded, decoded', nothing⟩
    · obtain ⟨tail, decoded, rest_eq⟩ := decode_of_encoded_dot (String.ofList_inj.mp form)
      obtain ⟨tail', decoded', nothing⟩ := decode_of_dot rest_eq
      exact ⟨tail, tail', decoded, decoded', nothing⟩
    · obtain ⟨tail, decoded, rest_eq⟩ := decode_of_encoded_dot (String.ofList_inj.mp form)
      obtain ⟨tail', decoded', nothing⟩ := decode_of_encoded_dot rest_eq
      exact ⟨tail, tail', decoded, decoded', nothing⟩
  obtain ⟨tail, tail', decoded, decoded', nothing⟩ := dots
  rw [decoded, decoded', decode_of_nothing nothing]

/-- The characters that count are told by what their segment reads as. -/
theorem counted_eq_of_decode {text dots : List Char}
    (same : Percent.decode (encodeSegment text) = dots.flatMap String.utf8EncodeChar) :
    counted text = dots := by
  rw [decode_encodeSegment, ← Utf8.bytes_ofList] at same
  exact String.ofList_inj.mp (Utf8.bytes_injective same)

/-- **Only one dot makes a segment for the place itself.** -/
theorem isHere_encodeSegment (text : List Char) :
    isHere (encodeSegment text) = true ↔ counted text = ['.'] := by
  constructor
  · intro here
    exact counted_eq_of_decode (decode_of_isHere here)
  · intro dot
    rw [encodeSegment, ← counted, dot]
    decide

/-- **Only two dots make a segment for the place above.** -/
theorem isAbove_encodeSegment (text : List Char) :
    isAbove (encodeSegment text) = true ↔ counted text = ['.', '.'] := by
  constructor
  · intro above
    exact counted_eq_of_decode (decode_of_isAbove above)
  · intro dots
    rw [encodeSegment, ← counted, dots]
    decide

/-! ### Behind a place -/

/-- A text that a segment can stand for: all of it counts, and it is not taken for a place. -/
structure Nameable (text : String) : Prop where
  counts : ∀ c ∈ text.toList, isIgnored c = false
  notHere : text ≠ "."
  notAbove : text ≠ ".."

/-- Where a text leads from a place. -/
def enter (place : UrlPath) (text : String) : UrlPath :=
  if text = "." ∨ text = ".." then place
  else if counted text.toList = ['.', '.'] then place.dropLast ++ [[]]
  else if counted text.toList = ['.'] then place ++ [[]]
  else place ++ [encodeSegment text.toList]

/-- What becomes of a path that ends with a slash when a text is put at its end. -/
theorem push_eq (place : UrlPath) (text : String) : push (place ++ [[]]) text = place.enter text := by
  have ends : dropEmptyLast (place ++ [[]]) = place := by
    rw [dropEmptyLast, if_pos List.getLast?_concat, List.dropLast_concat]
  rw [push, ends, enter]
  simp only [walk, isAbove_encodeSegment, isHere_encodeSegment]

/-- **A text leads out of a place only by its dots.** -/
theorem enter_stays_iff {place : UrlPath} (inside : place ≠ []) (text : String) :
    (∃ segment, place.enter text = place ++ [segment]) ↔
      text ≠ "." ∧ counted text.toList ≠ ['.', '.'] := by
  have positive := List.length_pos_iff.mpr inside
  constructor
  · rintro ⟨segment, enter_eq⟩
    have longer := congrArg List.length enter_eq
    rw [List.length_append, List.length_singleton, enter] at longer
    split_ifs at longer with dots above here
    · omega
    · rw [List.length_append, List.length_dropLast, List.length_singleton] at longer
      omega
    all_goals exact ⟨fun same => dots (.inl same), above⟩
  · rintro ⟨not_here, not_above⟩
    have no_dots : ¬ (text = "." ∨ text = "..") := by
      rintro (rfl | rfl)
      · exact not_here rfl
      · exact not_above rfl
    rw [enter, if_neg no_dots, if_neg not_above]
    split_ifs
    all_goals exact ⟨_, rfl⟩

/-- A nameable text leads to the segment that stands for it. -/
theorem Nameable.enter_eq {text : String} (nameable : Nameable text) (place : UrlPath) :
    place.enter text = place ++ [encodeSegment text.toList] ∧
      Percent.decode (encodeSegment text.toList) = Utf8.bytes text := by
  obtain ⟨counts, not_here, not_above⟩ := nameable
  have all : counted text.toList = text.toList := by
    rw [counted, List.filter_eq_self]
    simpa using counts
  have two_dots : text.toList ≠ ['.', '.'] := fun same => not_above (String.toList_inj.mp same)
  have one_dot : text.toList ≠ ['.'] := fun same => not_here (String.toList_inj.mp same)
  rw [enter, all, if_neg (not_or.mpr ⟨not_here, not_above⟩), if_neg two_dots, if_neg one_dot,
    decode_encodeSegment, all, String.ofList_toList]
  exact ⟨rfl, rfl⟩

/-- **A text leads to one segment that stands for it exactly if it is nameable.**

**Proof sketch.** By what the text means. Dots stay on no segment of their own (`enter_stays_iff`); a
text that is left out altogether leaves an empty segment, which stands for no characters; any other one
gets a segment, which stands for the characters that were not left out (`decode_encodeSegment`). -/
theorem enter_eq_iff {place : UrlPath} (inside : place ≠ []) (text : String) :
    (∃ segment, place.enter text = place ++ [segment] ∧
      Percent.decode segment = Utf8.bytes text) ↔ Nameable text := by
  constructor
  · rintro ⟨segment, enter_eq, decoded⟩
    obtain ⟨not_here, not_above⟩ := (enter_stays_iff inside text).mp ⟨segment, enter_eq⟩
    have no_dots : text ≠ ".." := by
      rintro rfl
      exact not_above rfl
    rw [enter, if_neg (not_or.mpr ⟨not_here, no_dots⟩), if_neg not_above] at enter_eq
    split_ifs at enter_eq with here
    · -- The segment is empty, so it stands for a text without characters.
      obtain rfl := List.singleton_inj.mp (List.append_cancel_left enter_eq)
      have nothing : Utf8.bytes "" = Utf8.bytes text := by
        rw [← decoded, Percent.decode]
        exact Utf8.bytes_ofList []
      obtain rfl := Utf8.bytes_injective nothing
      cases here
    · obtain rfl := List.singleton_inj.mp (List.append_cancel_left enter_eq)
      rw [decode_encodeSegment] at decoded
      have all := congrArg String.toList (Utf8.bytes_injective decoded)
      rw [String.toList_ofList, counted, List.filter_eq_self] at all
      exact ⟨by simpa using all, not_here, no_dots⟩
  · intro nameable
    exact ⟨_, nameable.enter_eq place⟩

/-- Different nameable texts lead to different places. -/
theorem Nameable.eq_of_encodeSegment {text text' : String} (nameable : Nameable text)
    (nameable' : Nameable text') (same : encodeSegment text.toList = encodeSegment text'.toList) :
    text = text' := by
  have decoded := congrArg Percent.decode same
  rw [(nameable.enter_eq []).2, (nameable'.enter_eq []).2] at decoded
  exact Utf8.bytes_injective decoded

end UrlPath

end GraphOffload

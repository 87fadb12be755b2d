/-!
# Byte strings

Byte strings are lists of bytes, and 32-bit words travel as four bytes, the lowest first.

## Main definitions

* `GraphOffload.Bytes` : the bytes of a blob, a file or a message.
* `GraphOffload.Bytes.ofWord` : the little-endian form of one 32-bit word.
* `GraphOffload.Bytes.ofWords` : the little-endian form of a list of words, one after the other.
* `GraphOffload.Bytes.words` : the words that a byte string holds, read four bytes at a time.

## Main results

* `GraphOffload.Bytes.length_ofWords` : every word takes four bytes.
* `GraphOffload.Bytes.words_ofWords` : reading what was written gives the words back.
-/

namespace GraphOffload

/-- The bytes of a blob, a file or a message. -/
abbrev Bytes := List UInt8

namespace Bytes

/-- The four bytes of a word, the lowest first. -/
def ofWord (word : UInt32) : Bytes :=
  [.ofNat word.toNat, .ofNat (word.toNat / 256), .ofNat (word.toNat / 65536),
    .ofNat (word.toNat / 16777216)]

/-- The word with the given four bytes, the lowest first. -/
def toWord (b₀ b₁ b₂ b₃ : UInt8) : UInt32 :=
  .ofNat (b₀.toNat + 256 * b₁.toNat + 65536 * b₂.toNat + 16777216 * b₃.toNat)

/-- The words one after the other, each lowest byte first. -/
def ofWords (words : List UInt32) : Bytes :=
  words.flatMap ofWord

/-- The whole words of a byte string; up to three bytes at the end that fill no word are left out. -/
def words : Bytes → List UInt32
  | b₀ :: b₁ :: b₂ :: b₃ :: rest => toWord b₀ b₁ b₂ b₃ :: words rest
  | _ => []

/-! ### Reading back -/

/-- A word has four bytes. -/
@[simp] theorem length_ofWord (word : UInt32) : (ofWord word).length = 4 := rfl

/-- No words have no bytes. -/
@[simp] theorem ofWords_nil : ofWords [] = [] := rfl

/-- The bytes of the first word come first. -/
@[simp] theorem ofWords_cons (word : UInt32) (rest : List UInt32) :
    ofWords (word :: rest) = ofWord word ++ ofWords rest := rfl

/-- The bytes of two lists of words follow each other. -/
@[simp] theorem ofWords_append (front back : List UInt32) :
    ofWords (front ++ back) = ofWords front ++ ofWords back := by
  simp [ofWords]

/-- Words have four bytes each. -/
@[simp] theorem length_ofWords (list : List UInt32) : (ofWords list).length = 4 * list.length := by
  induction list with
  | nil => rfl
  | cons word rest ih => simp [ih]; omega

/-- A word is the one of its four bytes, the lowest first. -/
theorem toWord_ofWord (word : UInt32) :
    toWord (.ofNat word.toNat) (.ofNat (word.toNat / 256)) (.ofNat (word.toNat / 65536))
      (.ofNat (word.toNat / 16777216)) = word := by
  have bound := word.toNat_lt
  rw [← UInt32.toNat_inj, toWord, UInt32.toNat_ofNat']
  simp only [UInt8.toNat_ofNat']
  omega

/-- Words are found again in their bytes. -/
@[simp] theorem words_ofWords (list : List UInt32) : words (ofWords list) = list := by
  induction list with
  | nil => rfl
  | cons word rest ih => simpa [ofWord, words, ih] using toWord_ofWord word

/-! ### Checksums -/

/-- The 64-bit FNV-1a checksum: each byte is mixed in by exclusive or, then by a multiplication. -/
def checksum (bytes : Bytes) : UInt64 :=
  bytes.foldl (fun hash byte => (hash ^^^ byte.toUInt64) * 0x100000001b3) 0xcbf29ce484222325

end Bytes

end GraphOffload

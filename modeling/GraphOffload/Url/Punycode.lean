/-!
# Labels in ASCII

A label with other than ASCII characters is written in ASCII alone: first its ASCII characters, and
then one number for each of the others, in the order of their code points, that says how far to go on
from the last insertion.

## Main definitions

* `GraphOffload.Punycode.insertions` : where the other characters are put in, one after the other.
* `GraphOffload.Punycode.encode` : the label in ASCII.
-/

namespace GraphOffload.Punycode

/-! ### Numbers -/

/-- The digit for a number below 36: first the letters, then the numerals. -/
def digit (n : Nat) : Char :=
  if n < 26 then Char.ofNat (97 + n) else Char.ofNat (22 + n)

/-- The least digit that does not end a number at a position. -/
def threshold (bias position : Nat) : Nat := min 26 (max 1 (position - bias))

/-- A number, the digit of least weight first; a digit below its threshold is the last. -/
def digits (bias position n : Nat) : List Char :=
  let t := threshold bias position
  if n < t then [digit n]
  else digit (t + (n - t) % (36 - t)) :: digits bias (position + 36) ((n - t) / (36 - t))
termination_by n
decreasing_by
  have positive : 1 ≤ threshold bias position := by simp only [threshold]; omega
  exact Nat.lt_of_le_of_lt (Nat.div_le_self _ _) (by omega)

/-- The bias that suits numbers around the given one, over a bias so far. -/
def settle (bias n : Nat) : Nat :=
  if 455 < n then settle (bias + 36) (n / 35) else bias + 36 * n / (n + 38)
termination_by n
decreasing_by omega

/-- The bias after a number that makes the label as long as given. -/
def nextBias (n length : Nat) (isFirst : Bool) : Nat :=
  let scaled := if isFirst then n / 700 else n / 2
  settle 0 (scaled + scaled / length)

/-! ### Insertions -/

/-- A character that is put into the label made up so far. -/
structure Insertion where
  point : Nat
  /-- The number of characters before it. -/
  index : Nat

/-- The insertions of one code point; `seen` counts the characters before the rest of the label that
are there by then. -/
def insertionsOf (point : Nat) : Nat → List Nat → List Insertion
  | _, [] => []
  | seen, p :: rest =>
    if p = point then ⟨p, seen⟩ :: insertionsOf point (seen + 1) rest
    else if p < point then insertionsOf point (seen + 1) rest
    else insertionsOf point seen rest

/-- The insertions that make up a label from its ASCII characters, by code point and place. -/
def insertions (label : List Nat) : List Insertion :=
  ((label.filter (128 ≤ ·)).mergeSort.eraseDups).flatMap (insertionsOf · 0 label)

/-- What is known before an insertion: the code point and place to go on from, the length of the label
and the bias of the next number. -/
structure Progress where
  point : Nat := 128
  index : Nat := 0
  length : Nat
  bias : Nat := 72

/-- The numbers for insertions. -/
def encodeInsertions (isFirst : Bool) (progress : Progress) : List Insertion → List Char
  | [] => []
  | insertion :: rest =>
    let length := progress.length + 1
    let n := (insertion.point - progress.point) * length + insertion.index - progress.index
    digits progress.bias 36 n ++ encodeInsertions false {
      point := insertion.point
      index := insertion.index + 1
      length := length
      bias := nextBias n length isFirst } rest

/-- A label in ASCII, without the mark that says so. -/
def encode (label : List Char) : List Char :=
  let ascii := label.filter (·.toNat < 128)
  let mark := if ascii.isEmpty then [] else ['-']
  ascii ++ mark ++
    encodeInsertions true { length := ascii.length } (insertions (label.map Char.toNat))

end GraphOffload.Punycode

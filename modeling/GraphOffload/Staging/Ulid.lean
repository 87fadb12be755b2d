/-!
# Unique names

A name of 128 bits, written with 26 digits in base 32. The digits leave out four letters that are
easily mistaken, and the first one is below eight.

## Main definitions

* `GraphOffload.Ulid` : a name of 128 bits.
* `GraphOffload.Ulid.text` : its written form.

## Main results

* `GraphOffload.Ulid.length_chars` : every name is written with 26 digits.
-/

namespace GraphOffload

/-- A name of 128 bits. -/
abbrev Ulid := BitVec 128

namespace Ulid

/-- The digits in ascending order. -/
def alphabet : List Char := "0123456789ABCDEFGHJKMNPQRSTVWXYZ".toList

/-- The digit of a number below 32. -/
def digit (n : Nat) : Char := alphabet.getD (n % 32) '0'

/-- How many digits a name has. -/
def width : Nat := 26

/-- The last `count` digits of a number in base 32, the highest first. -/
def digits : Nat → Nat → List Char
  | 0, _ => []
  | count + 1, n => digits count (n / 32) ++ [digit n]

/-- The digits of a name. -/
def chars (name : Ulid) : List Char := digits width name.toNat

/-- The written form of a name. -/
def text (name : Ulid) : String := String.ofList name.chars

/-- There are as many digits as were asked for. -/
theorem length_digits (count n : Nat) : (digits count n).length = count := by
  induction count generalizing n with
  | zero => rfl
  | succ count ih => simp [digits, ih]

/-- Every name is written with 26 digits. -/
theorem length_chars (name : Ulid) : name.chars.length = width :=
  length_digits width _

end Ulid

end GraphOffload

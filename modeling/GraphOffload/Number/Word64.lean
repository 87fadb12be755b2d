/-!
# Checked 64-bit arithmetic

## Main definitions

* `GraphOffload.Word64.mul?`, `GraphOffload.Word64.add?` : products and sums that fit 64 bits.
* `GraphOffload.Word64.ceilDiv` : division that rounds up.

## Main results

* `GraphOffload.Word64.mul?_eq_some`, `GraphOffload.Word64.add?_eq_some` : a checked result is the result
  over the natural numbers.
-/

namespace GraphOffload.Word64

/-- The product, if it fits 64 bits. -/
def mul? (a b : UInt64) : Option UInt64 :=
  if a.toNat * b.toNat < UInt64.size then some (a * b) else none

/-- The sum, if it fits 64 bits. -/
def add? (a b : UInt64) : Option UInt64 :=
  if a.toNat + b.toNat < UInt64.size then some (a + b) else none

/-- How many blocks of `unit` a length takes, the last one perhaps not full. -/
def ceilDiv (length unit : UInt64) : UInt64 :=
  if length % unit = 0 then length / unit else length / unit + 1

/-- A product that is found did not overflow. -/
theorem mul?_eq_some {a b c : UInt64} (h : mul? a b = some c) : c.toNat = a.toNat * b.toNat := by
  unfold mul? at h
  split at h
  · rename_i bound
    obtain rfl := Option.some.inj h
    rw [UInt64.toNat_mul]
    exact Nat.mod_eq_of_lt bound
  · simp at h

/-- A sum that is found did not overflow. -/
theorem add?_eq_some {a b c : UInt64} (h : add? a b = some c) : c.toNat = a.toNat + b.toNat := by
  unfold add? at h
  split at h
  · rename_i bound
    obtain rfl := Option.some.inj h
    rw [UInt64.toNat_add]
    exact Nat.mod_eq_of_lt bound
  · simp at h

end GraphOffload.Word64

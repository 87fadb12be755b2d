/-!
# Double precision numbers, exactly

A double is kept as its 64 bits. Its value is a fraction of natural numbers with a sign, so that
rounding, products and quotients are exact arithmetic followed by one rounding.

## Main definitions

* `GraphOffload.Binary64.ofRatio` : the double nearest to a fraction, ties to the even one.
* `GraphOffload.Binary64.scaled` : a natural number times a power of ten, each factor rounded to a
  double first.
* `GraphOffload.Binary64.shortest` : the fewest decimal digits that read back as a double.
* `GraphOffload.Binary64.text` : the decimal text of a finite double.
* `GraphOffload.Binary64.toBinary32` : the single precision bits nearest to a double.
-/

namespace GraphOffload.Binary64

/-- The bits of positive infinity, which also mark overflow. -/
def infinity : UInt64 := 0x7FF0000000000000

/-- The bit that holds the sign. -/
def signBit : UInt64 := 0x8000000000000000

/-- Whether the sign bit is set. -/
def isNegative (bits : UInt64) : Bool := bits &&& signBit != 0

/-! ### Rounding a fraction -/

/-- The integer nearest to `num / den`, a half going to the even neighbour. -/
def roundDiv (num den : Nat) : Nat :=
  let floor := num / den
  let twice := 2 * (num % den)
  if twice < den ∨ (twice = den ∧ floor % 2 = 0) then floor else floor + 1

/-- A binary format with a sign bit: `fraction` stored bits below the leading one, and the exponent
`lowest` of the last place of its smallest numbers. -/
structure Format where
  fraction : Nat
  lowest : Int
  /-- The exponent field that is reserved for infinity. -/
  reserved : Nat

/-- Double precision. -/
def double : Format := ⟨52, -1074, 2047⟩

/-- Single precision. -/
def single : Format := ⟨23, -149, 255⟩

/-- The bits of the number of the format nearest to `num / den`, ties to the even one. A fraction
too large for the format gives the bits of infinity. -/
def Format.ofRatio (format : Format) (num den : Nat) : Nat :=
  if num = 0 then 0 else
    let leading := Nat.pow 2 format.fraction
    let estimate : Int := (num.log2 : Int) - den.log2 - format.fraction
    -- the estimate is the exponent of the last place, or one more than it
    let place := if num * Nat.pow 2 (-estimate).toNat < leading * den * Nat.pow 2 estimate.toNat
      then estimate - 1 else estimate
    let place := max place format.lowest
    let mantissa := roundDiv (num * Nat.pow 2 (-place).toNat) (den * Nat.pow 2 place.toNat)
    if mantissa < leading then mantissa else
      let (mantissa, place) := if mantissa = 2 * leading then (leading, place + 1)
        else (mantissa, place)
      let field := (place - format.lowest).toNat + 1
      if field ≥ format.reserved then format.reserved * leading
      else field * leading + (mantissa - leading)

/-- The double nearest to `num / den`, ties to the even one. -/
def ofRatio (num den : Nat) : UInt64 :=
  .ofNat (double.ofRatio num den)

/-! ### The value of a double -/

/-- A finite double without its sign is `mantissa * 2 ^ place`. -/
def parts (bits : UInt64) : Nat × Int :=
  let fraction := (bits &&& 0xFFFFFFFFFFFFF).toNat
  let field := ((bits >>> 52) &&& 0x7FF).toNat
  if field = 0 then (fraction, -1074) else (fraction + Nat.pow 2 52, (field : Int) - 1075)

/-- A finite double without its sign, as a fraction. -/
def toRatio (bits : UInt64) : Nat × Nat :=
  let (mantissa, place) := parts bits
  (mantissa * Nat.pow 2 place.toNat, Nat.pow 2 (-place).toNat)

/-- The product of two doubles that are not negative, rounded to a double. -/
def mul (a b : UInt64) : UInt64 :=
  let (p, q) := toRatio a
  let (r, s) := toRatio b
  ofRatio (p * r) (q * s)

/-- The quotient of two doubles that are not negative, the second above zero, rounded. -/
def div (a b : UInt64) : UInt64 :=
  let (p, q) := toRatio a
  let (r, s) := toRatio b
  ofRatio (p * s) (q * r)

/-- The double nearest to `10 ^ n`. -/
def powerOfTen (n : Nat) : UInt64 := ofRatio (Nat.pow 10 n) 1

/-- `significand * 10 ^ exponent` where the significand and the power are each rounded to a double
before they are combined; powers beyond `10 ^ 308` are applied in two steps when they divide, and
make the number too large when they multiply. -/
def scaled (significand : Nat) (exponent : Int) : Option UInt64 :=
  let start := ofRatio significand 1
  if exponent ≥ 0 then
    if exponent ≤ 308 then
      let product := mul start (powerOfTen exponent.toNat)
      if product = infinity then none else some product
    else if start = 0 then some 0 else none
  else if exponent ≥ -308 then some (div start (powerOfTen (-exponent).toNat))
  else
    let reduced := div start (powerOfTen 308)
    if exponent ≥ -616 then some (div reduced (powerOfTen (-exponent - 308).toNat))
    else some 0

/-! ### Decimal text -/

/-- Whether `candidate / scale` lies between the two ends, the ends counting iff `closed`. -/
def within (low candidate high : Nat) (closed : Bool) : Bool :=
  if closed then low ≤ candidate ∧ candidate ≤ high else low < candidate ∧ candidate < high

/-- The number of decimal digits of a natural number. -/
def digitCount (n : Nat) : Nat := (Nat.toDigits 10 n).length

/-- The decimal `digits * 10 ^ place` nearest to a positive double among those with at most `count`
digits, if it reads back as that double. -/
def nearestWith (bits : UInt64) (count : Nat) : Option (Nat × Int) :=
  let (mantissa, exponent) := parts bits
  let closed := mantissa % 2 = 0
  let lowGap := if mantissa = Nat.pow 2 52 ∧ exponent > -1074 then 1 else 2
  let up := Nat.pow 2 (exponent - 2).toNat
  let down := Nat.pow 2 (2 - exponent).toNat
  -- the value is `4 * mantissa * up / down`, and its neighbours' midpoints are the ends
  let value := 4 * mantissa * up
  let magnitude : Int :=
    if value ≥ down then digitCount (value / down)
    else 1 - (digitCount (down / value) : Int)
  let attempt (place : Int) : Option (Nat × Int) :=
    let numScale := Nat.pow 10 (-place).toNat
    let unit := down * Nat.pow 10 place.toNat
    let scaledValue := value * numScale
    let low := (4 * mantissa - lowGap) * up * numScale
    let high := (4 * mantissa + 2) * up * numScale
    let floor := scaledValue / unit
    let below := within low (floor * unit) high closed
    let above := within low ((floor + 1) * unit) high closed
    if below ∧ (¬ above ∨ 2 * (scaledValue - floor * unit) ≤ unit) then some (floor, place)
    else if above then some (floor + 1, place)
    else none
  attempt (magnitude - count)

/-- The fewest decimal digits that read back as a positive double: the first count from one to
seventeen for which a decimal of that many digits does. -/
def shortest (bits : UInt64) : Nat × Int :=
  ((List.range 17).findSome? fun count => nearestWith bits (count + 1)).getD (0, 0)

/-- Removes trailing zeros of the digits, raising the place instead. -/
def trimZeros : Nat → Nat → Int → Nat × Int
  | 0, digits, place => (digits, place)
  | fuel + 1, digits, place =>
    if digits ≠ 0 ∧ digits % 10 = 0 then trimZeros fuel (digits / 10) (place + 1)
    else (digits, place)

/-- The text of a finite double: positional below `10 ^ 16` and down to `10 ^ -5`, else with an
exponent; a point or an exponent always tells it from an integer. -/
def text (bits : UInt64) : String :=
  let sign := if isNegative bits then "-" else ""
  let magnitude := bits &&& (signBit - 1)
  if magnitude = 0 then sign ++ "0.0" else
    let (rawDigits, rawPlace) := shortest magnitude
    let (digits, place) := trimZeros 20 rawDigits rawPlace
    let written := toString digits
    let count : Int := written.length
    let point := count + place
    let zeros (n : Int) : String := String.ofList (List.replicate n.toNat '0')
    let chars := written.toList
    let body :=
      if 0 ≤ place ∧ point ≤ 16 then written ++ zeros place ++ ".0"
      else if 0 < point ∧ point ≤ 16 then
        String.ofList (chars.take point.toNat) ++ "." ++ String.ofList (chars.drop point.toNat)
      else if -5 < point ∧ point ≤ 0 then "0." ++ zeros (-point) ++ written
      else
        let exponent := point - 1
        let mark := if exponent < 0 then "e-" else "e+"
        let tail := if count = 1 then "" else "." ++ String.ofList (chars.drop 1)
        String.ofList (chars.take 1) ++ tail ++ mark ++ toString exponent.natAbs
    sign ++ body

/-! ### Single precision -/

/-- The single precision bits nearest to a finite double, ties to the even one. -/
def toBinary32 (bits : UInt64) : UInt32 :=
  let (num, den) := toRatio (bits &&& (signBit - 1))
  let magnitude : UInt32 := .ofNat (single.ofRatio num den)
  if isNegative bits then magnitude ||| 0x80000000 else magnitude

end GraphOffload.Binary64

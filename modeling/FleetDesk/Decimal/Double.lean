/-!
# Binary floating-point numbers

A `Double` has 53 significant bits and an exponent between -1074 and 971; infinities and NaN are
left out. All arithmetic is exact on natural numbers followed by one rounding to the nearest, a tie
going to the even mantissa (`ofRatio?`); a result beyond the largest number is `none`. A decimal is
read with one rounding in all (`ofDecimal?`) or with one in each step (`ofParts?`).
-/

namespace FleetDesk

/-- The number `mantissa · 2 ^ exponent`, with its sign. -/
structure Double where
  negative : Bool
  mantissa : Nat
  exponent : Int
  deriving DecidableEq, Repr

namespace Double

def minExponent : Int := -1074

def maxExponent : Int := 971

def mantissaBits : Nat := 53

/-- The least mantissa that fills its bits. -/
def fullMantissa : Nat := 0x10000000000000

def zero (negative : Bool) : Double := ⟨negative, 0, minExponent⟩

def isZero (x : Double) : Bool := x.mantissa == 0

def isPositive (x : Double) : Bool := !x.negative && !x.isZero

/-- `num / den` to the nearest natural number, a tie to the even one. -/
def roundEven (num den : Nat) : Nat :=
  let q := num / den
  let r := num % den
  if 2 * r < den then q else if den < 2 * r then q + 1 else if q % 2 = 0 then q else q + 1

/-- `num / den` to the nearest natural number, a tie upwards. -/
def roundHalfUp (num den : Nat) : Nat := (2 * num + den) / (2 * den)

/-- `num · 2 ^ e / den` as a fraction. -/
def scaleBinary (num den : Nat) (e : Int) : Nat × Nat :=
  if 0 ≤ e then (num * Nat.pow 2 e.toNat, den) else (num, den * Nat.pow 2 (-e).toNat)

/-- The `k` with `2 ^ k ≤ num / den < 2 ^ (k + 1)`. -/
def leadingBit (num den : Nat) : Int :=
  let k : Int := num.log2 - den.log2
  let (n, d) := scaleBinary num den (-k)
  if d ≤ n then k else k - 1

/-- The nearest number to `num / den`. -/
def ofRatio? (negative : Bool) (num den : Nat) : Option Double :=
  if num = 0 then some (zero negative) else
    let e := max (leadingBit num den - (mantissaBits - 1 : Nat)) minExponent
    let (n, d) := scaleBinary num den (-e)
    let m := roundEven n d
    let (m, e) := if m = 2 * fullMantissa then (fullMantissa, e + 1) else (m, e)
    if maxExponent < e then none else some ⟨negative, m, e⟩

/-- The magnitude as a fraction. -/
def ratio (x : Double) : Nat × Nat := scaleBinary x.mantissa 1 x.exponent

/-- The nearest number to an integer, if it is not too large. -/
def ofInt? (n : Int) : Option Double := ofRatio? (n < 0) n.natAbs 1

/-- Beyond these powers of ten every decimal is too large, or rounds to zero. -/
def decimalCeiling : Int := 400

/-- The nearest number to `digits · 10 ^ exponent`; `none` when it is too large. -/
def ofDecimal? (negative : Bool) (digits : Nat) (exponent : Int) : Option Double :=
  if digits = 0 then some (zero negative) else
    let top : Int := (Nat.toDigits 10 digits).length + exponent
    if decimalCeiling < top then none
    else if top < -decimalCeiling then some (zero negative)
    else if 0 ≤ exponent then ofRatio? negative (digits * Nat.pow 10 exponent.toNat) 1
    else ofRatio? negative digits (Nat.pow 10 (-exponent).toNat)

/-- The nearest number to `k` times the magnitude, with the sign kept. -/
def timesNat? (x : Double) (k : Nat) : Option Double :=
  let (n, d) := x.ratio
  ofRatio? x.negative (n * k) d

/-- The nearest number to the product. -/
def times? (x y : Double) : Option Double :=
  let (n, d) := x.ratio
  let (k, e) := y.ratio
  ofRatio? (x.negative != y.negative) (n * k) (d * e)

/-- The nearest number to the quotient; `y` is not zero. -/
def over? (x y : Double) : Option Double :=
  let (n, d) := x.ratio
  let (k, e) := y.ratio
  ofRatio? (x.negative != y.negative) (n * e) (d * k)

/-- The largest power of ten that there is a number for. -/
def topPower : Nat := 308

def powerOfTen? (k : Nat) : Option Double := ofDecimal? false 1 k

/-- The number times `10 ^ k`, by one multiplication. -/
def raised? (x : Double) (k : Nat) : Option Double :=
  if k ≤ topPower then do x.times? (← powerOfTen? k) else if x.isZero then some x else none

/-- The number divided by `10 ^ k`, by the largest power as long as `k` is beyond it and something
is left. -/
def lowered? (x : Double) (k : Nat) : Option Double :=
  if k ≤ topPower then do x.over? (← powerOfTen? k)
  else if x.isZero then some x
  else do lowered? (← x.over? (← powerOfTen? topPower)) (k - topPower)
termination_by k
decreasing_by
  unfold topPower at *
  omega

/-- `significand · 10 ^ exponent` with a rounding in each step: the significand, the power of ten,
and each product or quotient. It may be next to the nearest number, and a product that is beyond the
largest one is `none` where `ofDecimal?` still rounds down to it. -/
def ofParts? (negative : Bool) (significand : Nat) (exponent : Int) : Option Double := do
  let x ← ofRatio? negative significand 1
  if 0 ≤ exponent then x.raised? exponent.toNat else x.lowered? (-exponent).toNat

/-- The magnitude to the nearest natural number, a half upwards. -/
def roundMagnitude (x : Double) : Nat :=
  let (n, d) := x.ratio
  roundHalfUp n d

end Double

end FleetDesk

import FleetDesk.Decimal.Double

/-!
# The shortest decimal that reads back

The reals that round to a number form an interval, its ends included when the mantissa is even.
`shortest` tries 1, 2, … significant digits and takes the first decimal grid on which one of the two
neighbours of the number lies in that interval, the nearer one if both do.
-/

namespace FleetDesk.Double

/-- The number `digits · 10 ^ exponent`. -/
structure Decimal where
  digits : Nat
  exponent : Int
  deriving DecidableEq, Repr

/-- The interval of reals that round to a number, in quarters of the unit of its mantissa. -/
structure Span where
  low : Nat
  mid : Nat
  high : Nat
  closed : Bool

def span (x : Double) : Span :=
  let m := x.mantissa
  let lowest := m = fullMantissa && minExponent < x.exponent
  ⟨if lowest then 4 * m - 1 else 4 * m - 2, 4 * m, 4 * m + 2, m % 2 = 0⟩

/-- `num · 10 ^ e / den` as a fraction. -/
def scaleDecimal (num den : Nat) (e : Int) : Nat × Nat :=
  if 0 ≤ e then (num * Nat.pow 10 e.toNat, den) else (num, den * Nat.pow 10 (-e).toNat)

/-- The `k` with `10 ^ k ≤ num / den < 10 ^ (k + 1)`. -/
def leadingDigit (num den : Nat) : Int :=
  let k : Int := (Nat.toDigits 10 num).length - (Nat.toDigits 10 den).length
  let (n, d) := scaleDecimal num den (-k)
  if d ≤ n then k else k - 1

/-- The point `a · 10 ^ p` lies in the interval whose unit is the fraction `num / den`. -/
def Span.holds (s : Span) (num den : Nat) (p : Int) (a : Nat) : Bool :=
  let (n, d) := scaleDecimal (a * den) num p
  if s.closed then s.low * d ≤ n && n ≤ s.high * d else s.low * d < n && n < s.high * d

/-- A point of the grid `10 ^ p` in the interval and nearest to the number, if there is one. -/
def onGrid? (s : Span) (num den : Nat) (p : Int) : Option Decimal :=
  let (n, d) := scaleDecimal (s.mid * num) den (-p)
  let a := n / d
  match s.holds num den p a, s.holds num den p (a + 1) with
  | true, true => some ⟨if 2 * (n % d) ≤ d then a else a + 1, p⟩
  | true, false => some ⟨a, p⟩
  | false, true => some ⟨a + 1, p⟩
  | false, false => none

def maxDigits : Nat := 17

/-- Seventeen digits always suffice, so the alternative is never taken. -/
def shortest (x : Double) : Decimal :=
  let s := x.span
  let (num, den) := scaleBinary 1 1 (x.exponent - 2)
  let top := leadingDigit (s.mid * num) den
  let grids := (List.range maxDigits).map fun k => top - (k : Nat)
  (grids.findSome? (onGrid? s num den)).getD ⟨0, 0⟩

/-- The digits without the zeros that close them, and the place of the decimal point counted from
the first digit. -/
def Decimal.significant (x : Decimal) : List Char × Int :=
  let ds := Nat.toDigits 10 x.digits
  ((ds.reverse.dropWhile (· == '0')).reverse, ds.length + x.exponent)

end FleetDesk.Double

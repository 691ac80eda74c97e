import FleetDesk.Decimal.Double
import Mathlib.Algebra.Order.Field.Power
import Mathlib.Data.Int.Log
import Mathlib.Data.Rat.Floor

/-!
# What rounding depends on

`ofRatio?` depends on the value of the fraction only (`ofRatio?_congr`), and what is a `Double`
already is its own rounding (`ofRatio?_of_magnitude`). So the steps of `ofParts?` do not add up as
long as the significand and the power of ten are numbers themselves: then it reads the nearest one,
as `ofDecimal?` does (`ofParts?_eq_ofDecimal?`).
-/

namespace FleetDesk.Double

/-! ### Fractions -/

theorem scaleBinary_value (num den : Nat) (e : Int) :
    ((scaleBinary num den e).1 : ℚ) / (scaleBinary num den e).2 = num / den * 2 ^ e := by
  unfold scaleBinary
  split
  · next he =>
    have hpow : (2 : ℚ) ^ e = 2 ^ e.toNat := by
      rw [← zpow_natCast, Int.toNat_of_nonneg he]
    rw [hpow, Nat.pow_eq]
    push_cast
    ring
  · next he =>
    have hpow : (2 : ℚ) ^ e = (2 ^ (-e).toNat)⁻¹ := by
      rw [← zpow_natCast, Int.toNat_of_nonneg (by omega), zpow_neg, inv_inv]
    rw [hpow, Nat.pow_eq]
    push_cast
    ring

theorem den_scaleBinary_pos {num den : Nat} (h : 0 < den) (e : Int) :
    0 < (scaleBinary num den e).2 := by
  unfold scaleBinary
  split
  · exact h
  · exact Nat.mul_pos h (Nat.pow_pos (by omega))

theorem roundEven_scale (num den : Nat) {c : Nat} (h : 0 < c) :
    roundEven (num * c) (den * c) = roundEven num den := by
  have hleft : 2 * (num % den * c) < den * c ↔ 2 * (num % den) < den := by
    rw [← Nat.mul_assoc, Nat.mul_lt_mul_right h]
  have hright : den * c < 2 * (num % den * c) ↔ den < 2 * (num % den) := by
    rw [← Nat.mul_assoc, Nat.mul_lt_mul_right h]
  simp only [roundEven, Nat.mul_div_mul_right _ _ h, Nat.mul_mod_mul_right, hleft, hright]

theorem roundEven_congr {num den num' den' : Nat} (hden : 0 < den) (hden' : 0 < den')
    (h : (num : ℚ) / den = num' / den') : roundEven num den = roundEven num' den' := by
  have hcross : num * den' = num' * den := by
    rw [div_eq_div_iff (by positivity) (by positivity)] at h
    exact_mod_cast h
  rw [← roundEven_scale num den hden', hcross, Nat.mul_comm den, roundEven_scale num' den' hden]

theorem roundEven_one (m : Nat) : roundEven m 1 = m := by
  simp [roundEven, Nat.mod_one]

theorem log2_bounds {n : Nat} (h : n ≠ 0) :
    (2 : ℚ) ^ (n.log2 : Int) ≤ n ∧ (n : ℚ) < 2 ^ (n.log2 + 1 : Int) := by
  have hlow : 2 ^ n.log2 ≤ n := Nat.log2_self_le h
  have hhigh : n < 2 ^ (n.log2 + 1) := Nat.lt_log2_self
  exact ⟨by exact_mod_cast hlow, by exact_mod_cast hhigh⟩

section

variable {num den : Nat}

theorem log_bounds (hnum : num ≠ 0) (hden : den ≠ 0) :
    (num.log2 : Int) - den.log2 - 1 ≤ Int.log 2 ((num : ℚ) / den) ∧
      Int.log 2 ((num : ℚ) / den) < (num.log2 : Int) - den.log2 + 1 := by
  have hd : (0 : ℚ) < den := by positivity
  have hpos : (0 : ℚ) < num / den := by positivity
  obtain ⟨hnlow, hnhigh⟩ := log2_bounds hnum
  obtain ⟨hdlow, hdhigh⟩ := log2_bounds hden
  constructor
  · rw [← Int.zpow_le_iff_le_log (by omega) hpos, le_div_iff₀ hd, Nat.cast_ofNat]
    calc (2 : ℚ) ^ ((num.log2 : Int) - den.log2 - 1) * den
        ≤ 2 ^ ((num.log2 : Int) - den.log2 - 1) * 2 ^ (den.log2 + 1 : Int) := by gcongr
      _ = 2 ^ (num.log2 : Int) := by
        rw [← zpow_add₀ (by norm_num)]
        congr 1
        ring
      _ ≤ num := hnlow
  · rw [← Int.lt_zpow_iff_log_lt (by omega) hpos, div_lt_iff₀ hd, Nat.cast_ofNat]
    calc (num : ℚ) < 2 ^ (num.log2 + 1 : Int) := hnhigh
      _ = 2 ^ ((num.log2 : Int) - den.log2 + 1) * 2 ^ (den.log2 : Int) := by
        rw [← zpow_add₀ (by norm_num)]
        congr 1
        ring
      _ ≤ 2 ^ ((num.log2 : Int) - den.log2 + 1) * den := by gcongr

theorem den_le_scaleBinary_iff (hnum : num ≠ 0) (hden : den ≠ 0) (k : Int) :
    (scaleBinary num den (-k)).2 ≤ (scaleBinary num den (-k)).1 ↔
      k ≤ Int.log 2 ((num : ℚ) / den) := by
  have hpos : (0 : ℚ) < num / den := by positivity
  have hscaled : (0 : ℚ) < (scaleBinary num den (-k)).2 := by
    exact_mod_cast den_scaleBinary_pos (Nat.pos_of_ne_zero hden) (-k)
  rw [← Int.zpow_le_iff_le_log (by omega) hpos, ← Nat.cast_le (α := ℚ), ← one_le_div hscaled,
    scaleBinary_value, zpow_neg, ← div_eq_mul_inv, one_le_div (by positivity), Nat.cast_ofNat]

theorem leadingBit_eq_log (hnum : num ≠ 0) (hden : den ≠ 0) :
    leadingBit num den = Int.log 2 ((num : ℚ) / den) := by
  have hbounds := log_bounds hnum hden
  have htest := den_le_scaleBinary_iff hnum hden (num.log2 - den.log2)
  simp only [leadingBit, htest]
  split <;> omega

end

/-! ### Rounding -/

theorem ofRatio?_congr (negative : Bool) {num den num' den' : Nat} (hden : 0 < den)
    (hden' : 0 < den') (h : (num : ℚ) / den = num' / den') :
    ofRatio? negative num den = ofRatio? negative num' den' := by
  have hzero : num = 0 ↔ num' = 0 := by
    have hq : (num : ℚ) / den = 0 ↔ (num' : ℚ) / den' = 0 := by rw [h]
    simpa [hden.ne', hden'.ne'] using hq
  by_cases hnum : num = 0
  · rw [ofRatio?, if_pos hnum, ofRatio?, if_pos (hzero.1 hnum)]
  · have hnum' : num' ≠ 0 := mt hzero.2 hnum
    have hlead : leadingBit num den = leadingBit num' den' := by
      rw [leadingBit_eq_log hnum hden.ne', leadingBit_eq_log hnum' hden'.ne', h]
    have hround : ∀ e, roundEven (scaleBinary num den e).1 (scaleBinary num den e).2 =
        roundEven (scaleBinary num' den' e).1 (scaleBinary num' den' e).2 := fun e =>
      roundEven_congr (den_scaleBinary_pos hden e) (den_scaleBinary_pos hden' e)
        (by rw [scaleBinary_value, scaleBinary_value, h])
    simp only [ofRatio?, if_neg hnum, if_neg hnum', hlead, hround]

def magnitude (x : Double) : ℚ := x.mantissa * 2 ^ x.exponent

theorem ratio_value (x : Double) : (x.ratio.1 : ℚ) / x.ratio.2 = x.magnitude := by
  rw [ratio, scaleBinary_value, Nat.cast_one, div_one, magnitude]

theorem den_ratio_pos (x : Double) : 0 < x.ratio.2 := den_scaleBinary_pos Nat.one_pos x.exponent

/-- The mantissa fills its bits unless the exponent is the least one. -/
structure Normal (x : Double) : Prop where
  mantissa_lt : x.mantissa < 2 * fullMantissa
  le_exponent : minExponent ≤ x.exponent
  exponent_le : x.exponent ≤ maxExponent
  full : fullMantissa ≤ x.mantissa ∨ x.exponent = minExponent

theorem magnitude_eq_zero {x : Double} : x.magnitude = 0 ↔ x.mantissa = 0 := by
  simp [magnitude, zpow_ne_zero]

/-- The exponent is the one that rounding chooses. -/
theorem Normal.exponent_eq {x : Double} (h : x.Normal) (hzero : x.mantissa ≠ 0) :
    max (Int.log 2 x.magnitude - (mantissaBits - 1 : Nat)) minExponent = x.exponent := by
  have hpos : (0 : ℚ) < x.magnitude := by
    have := Nat.pos_of_ne_zero hzero
    rw [magnitude]
    positivity
  have hhigh : Int.log 2 x.magnitude < x.exponent + 53 := by
    rw [← Int.lt_zpow_iff_log_lt (by omega) hpos, Nat.cast_ofNat, zpow_add₀ (by norm_num),
      magnitude, mul_comm]
    have hm : (x.mantissa : ℚ) < 2 ^ (53 : Int) := by
      exact_mod_cast h.mantissa_lt
    gcongr
  have hbits : ((mantissaBits - 1 : Nat) : Int) = 52 := rfl
  have hle := h.le_exponent
  rcases h.full with hfull | hleast
  · have hlow : x.exponent + 52 ≤ Int.log 2 x.magnitude := by
      rw [← Int.zpow_le_iff_le_log (by omega) hpos, Nat.cast_ofNat, zpow_add₀ (by norm_num),
        magnitude, mul_comm]
      have hm : (2 : ℚ) ^ (52 : Int) ≤ x.mantissa := by
        exact_mod_cast hfull
      gcongr
    omega
  · omega

/-- What is a number already is its own rounding. -/
theorem ofRatio?_of_magnitude {x : Double} (h : x.Normal) {num den : Nat} (hden : 0 < den)
    (hvalue : (num : ℚ) / den = x.magnitude) : ofRatio? x.negative num den = some x := by
  have hzero : num = 0 ↔ x.mantissa = 0 := by
    rw [← magnitude_eq_zero, ← hvalue]
    simp [hden.ne']
  by_cases hnum : num = 0
  · have hmantissa := hzero.1 hnum
    have hleast : x.exponent = minExponent :=
      h.full.resolve_left (by simp [hmantissa, fullMantissa])
    rw [ofRatio?, if_pos hnum, zero, ← hmantissa, ← hleast]
  · have hmantissa := mt hzero.2 hnum
    have hexponent := h.exponent_eq hmantissa
    have hround : roundEven (scaleBinary num den (-x.exponent)).1
        (scaleBinary num den (-x.exponent)).2 = x.mantissa := by
      refine (roundEven_congr (den_scaleBinary_pos hden _) Nat.one_pos ?_).trans
        (roundEven_one x.mantissa)
      rw [scaleBinary_value, hvalue, magnitude, mul_assoc, ← zpow_add₀ (by norm_num),
        Int.add_right_neg, zpow_zero, mul_one, Nat.cast_one, div_one]
    have hlt : ¬ x.mantissa = 2 * fullMantissa := h.mantissa_lt.ne
    have hle : ¬ maxExponent < x.exponent := h.exponent_le.not_gt
    simp only [ofRatio?, if_neg hnum, leadingBit_eq_log hnum hden.ne', hvalue, hexponent, hround,
      if_neg hlt, if_neg hle]

/-- An integer of at most 53 bits times a power of two that is neither too large nor too small. -/
theorem exists_normal (negative : Bool) {m : Nat} (hm : m < 2 * fullMantissa) {j : Int}
    (hlow : -1000 ≤ j) (hhigh : j ≤ 900) :
    ∃ x : Double, x.Normal ∧ x.negative = negative ∧ x.magnitude = m * 2 ^ j := by
  by_cases hzero : m = 0
  · refine ⟨zero negative, ⟨?_, ?_, ?_, .inr rfl⟩, rfl, ?_⟩
    · simp [zero, fullMantissa]
    · simp [zero]
    · simp [zero, minExponent, maxExponent]
    · simp [zero, magnitude, hzero]
  · have hbits : m.log2 < 53 := (Nat.log2_lt hzero).2 hm
    obtain ⟨k, hk⟩ : ∃ k, m.log2 + k = 52 := ⟨52 - m.log2, by omega⟩
    have hleast : 2 ^ m.log2 * 2 ^ k ≤ m * 2 ^ k := Nat.mul_le_mul_right _ (Nat.log2_self_le hzero)
    have hmost : m * 2 ^ k < 2 ^ (m.log2 + 1) * 2 ^ k :=
      Nat.mul_lt_mul_of_pos_right Nat.lt_log2_self (by positivity)
    rw [← pow_add] at hleast hmost
    rw [hk] at hleast
    rw [show m.log2 + 1 + k = 53 by omega] at hmost
    refine ⟨⟨negative, m * 2 ^ k, j - k⟩, ⟨hmost, ?_, ?_, .inl hleast⟩, rfl, ?_⟩
    · simp only [minExponent]
      omega
    · simp only [maxExponent]
      omega
    · have hpow : (2 : ℚ) ^ j = 2 ^ k * 2 ^ (j - k) := by
        rw [← zpow_natCast, ← zpow_add₀ (by norm_num)]
        congr 1
        ring
      rw [magnitude, hpow]
      push_cast
      ring

theorem times?_eq_ofRatio? {x y : Double} {num den : Nat} (hden : 0 < den)
    (h : (num : ℚ) / den = x.magnitude * y.magnitude) :
    x.times? y = ofRatio? (x.negative != y.negative) num den := by
  have hstep : x.times? y =
      ofRatio? (x.negative != y.negative) (x.ratio.1 * y.ratio.1) (x.ratio.2 * y.ratio.2) := rfl
  rw [hstep]
  refine ofRatio?_congr _ (Nat.mul_pos x.den_ratio_pos y.den_ratio_pos) hden ?_
  rw [Nat.cast_mul, Nat.cast_mul, mul_div_mul_comm, ratio_value, ratio_value, h]

theorem over?_eq_ofRatio? {x y : Double} (hy : y.magnitude ≠ 0) {num den : Nat} (hden : 0 < den)
    (h : (num : ℚ) / den = x.magnitude / y.magnitude) :
    x.over? y = ofRatio? (x.negative != y.negative) num den := by
  have hstep : x.over? y =
      ofRatio? (x.negative != y.negative) (x.ratio.1 * y.ratio.2) (x.ratio.2 * y.ratio.1) := rfl
  have hnum : y.ratio.1 ≠ 0 := fun hzero =>
    hy (by rw [← ratio_value, hzero, Nat.cast_zero, zero_div])
  rw [hstep]
  refine ofRatio?_congr _ (Nat.mul_pos x.den_ratio_pos (Nat.pos_of_ne_zero hnum)) hden ?_
  rw [Nat.cast_mul, Nat.cast_mul, mul_div_mul_comm, ratio_value, ← inv_div (y.ratio.1 : ℚ),
    ratio_value, h, div_eq_mul_inv]

section

variable {digits : Nat} {exponent : Int}

theorem ofDecimal?_eq_ofRatio? (negative : Bool) (hdigits : digits < 2 * fullMantissa)
    (hexponent : exponent.natAbs ≤ 22) {num den : Nat} (hden : 0 < den)
    (h : (num : ℚ) / den = digits * 10 ^ exponent) :
    ofDecimal? negative digits exponent = ofRatio? negative num den := by
  by_cases hzero : digits = 0
  · have hnum : num = 0 := by
      simpa [hzero, hden.ne'] using h
    rw [ofDecimal?, if_pos hzero, ofRatio?, if_pos hnum]
  · have hlength : (Nat.toDigits 10 digits).length ≤ 16 :=
      (Nat.length_toDigits_le_iff (by omega) (by omega)).2 (hdigits.trans (by decide))
    have hhigh : ¬ decimalCeiling < (Nat.toDigits 10 digits).length + exponent := by
      simp only [decimalCeiling]
      omega
    have hlow : ¬ ((Nat.toDigits 10 digits).length + exponent : Int) < -decimalCeiling := by
      simp only [decimalCeiling]
      omega
    simp only [ofDecimal?, if_neg hzero, if_neg hhigh, if_neg hlow, Nat.pow_eq]
    split
    · next he =>
      refine ofRatio?_congr negative Nat.one_pos hden ?_
      obtain ⟨k, rfl⟩ := Int.eq_ofNat_of_zero_le he
      rw [h, zpow_natCast]
      simp
    · next he =>
      refine ofRatio?_congr negative (by positivity) hden ?_
      obtain ⟨k, hk⟩ := Int.eq_ofNat_of_zero_le (by omega : 0 ≤ -exponent)
      rw [h, ← neg_neg exponent, hk, zpow_neg, zpow_natCast]
      simp [div_eq_mul_inv]

theorem exists_powerOfTen? {k : Nat} (h : k ≤ 22) :
    ∃ p : Double, powerOfTen? k = some p ∧ p.negative = false ∧ p.magnitude = 10 ^ k := by
  have hodd : 5 ^ k < 2 * fullMantissa := by
    have hle : 5 ^ k ≤ 5 ^ 22 := Nat.pow_le_pow_right (by omega) h
    exact hle.trans_lt (by decide)
  obtain ⟨p, hnormal, hnegative, hvalue⟩ :=
    exists_normal false hodd (j := k) (by omega) (by omega)
  have hmagnitude : p.magnitude = 10 ^ k := by
    rw [hvalue, zpow_natCast]
    push_cast
    rw [← mul_pow]
    norm_num
  refine ⟨p, ?_, hnegative, hmagnitude⟩
  have hpower : powerOfTen? k = ofRatio? false (10 ^ k) 1 :=
    ofDecimal?_eq_ofRatio? false (by decide) (by omega) Nat.one_pos (by simp)
  rw [hpower, ← hnegative]
  exact ofRatio?_of_magnitude hnormal Nat.one_pos (by rw [hmagnitude]; simp)

theorem raised?_of_exact {x : Double} {k : Nat} (hx : x.magnitude = digits) (hk : k ≤ 22) :
    x.raised? k = ofRatio? x.negative (digits * 10 ^ k) 1 := by
  obtain ⟨p, hp, hpositive, hpower⟩ := exists_powerOfTen? hk
  have htop : k ≤ topPower := hk.trans (by decide)
  have hvalue : ((digits * 10 ^ k : Nat) : ℚ) / (1 : Nat) = x.magnitude * p.magnitude := by
    rw [hx, hpower]
    simp
  rw [raised?, if_pos htop, hp, Option.bind_eq_bind, Option.bind_some,
    times?_eq_ofRatio? Nat.one_pos hvalue, hpositive, Bool.bne_false]

theorem lowered?_of_exact {x : Double} {k : Nat} (hx : x.magnitude = digits) (hk : k ≤ 22) :
    x.lowered? k = ofRatio? x.negative digits (10 ^ k) := by
  obtain ⟨p, hp, hpositive, hpower⟩ := exists_powerOfTen? hk
  have htop : k ≤ topPower := hk.trans (by decide)
  have hne : p.magnitude ≠ 0 := by
    rw [hpower]
    positivity
  have hvalue : (digits : ℚ) / (10 ^ k : Nat) = x.magnitude / p.magnitude := by
    rw [hx, hpower]
    simp
  rw [lowered?, if_pos htop, hp, Option.bind_eq_bind, Option.bind_some,
    over?_eq_ofRatio? hne (Nat.pow_pos (by omega)) hvalue, hpositive, Bool.bne_false]

/-- A significand and a power of ten that are numbers themselves make for one rounding in all. -/
theorem ofParts?_eq_ofDecimal? (negative : Bool) (hdigits : digits < 2 * fullMantissa)
    (hexponent : exponent.natAbs ≤ 22) :
    ofParts? negative digits exponent = ofDecimal? negative digits exponent := by
  obtain ⟨x, hnormal, rfl, hvalue⟩ :=
    exists_normal negative hdigits (j := 0) (by omega) (by omega)
  rw [zpow_zero, mul_one] at hvalue
  have hx : ofRatio? x.negative digits 1 = some x :=
    ofRatio?_of_magnitude hnormal Nat.one_pos (by rw [hvalue, Nat.cast_one, div_one])
  rw [ofParts?, hx, Option.bind_eq_bind, Option.bind_some]
  split
  · next he =>
    obtain ⟨k, rfl⟩ := Int.eq_ofNat_of_zero_le he
    rw [Int.toNat_natCast, raised?_of_exact hvalue (by omega)]
    exact (ofDecimal?_eq_ofRatio? _ hdigits hexponent Nat.one_pos (by simp)).symm
  · next he =>
    obtain ⟨k, hk⟩ := Int.eq_ofNat_of_zero_le (by omega : 0 ≤ -exponent)
    rw [hk, Int.toNat_natCast, lowered?_of_exact hvalue (by omega)]
    refine (ofDecimal?_eq_ofRatio? _ hdigits hexponent (Nat.pow_pos (by omega)) ?_).symm
    rw [← neg_neg exponent, hk, zpow_neg, zpow_natCast]
    simp [div_eq_mul_inv]

end

/-- With a greater power of ten two roundings may add up. -/
example : ofParts? false 95 (-32) ≠ ofDecimal? false 95 (-32) := by decide +kernel

/-- The power of ten is rounded up, and so the product is beyond the largest number. -/
example : ofParts? false 17976931348623158 292 = none ∧
    (ofDecimal? false 17976931348623158 292).isSome := by decide +kernel

end FleetDesk.Double

import ContentForms.Binary64.Basic
import Mathlib.Algebra.Order.Field.Power
import Mathlib.Tactic.Linarith
import Mathlib.Tactic.Positivity
import Mathlib.Tactic.Ring

/-!
Rounding a quotient that needs none. The value of a number is rational, and `ofRatio` gives the
number back for every quotient that is equal to its value, whatever the numerator and the
denominator: the leading bit of the quotient decides the scale, at that scale the quotient is whole,
and whole numbers are not rounded.
-/

namespace ContentForms.Binary64

def value (x : Binary64) : ℚ :=
  x.significand * 2 ^ x.scale

theorem pow_toNat_div {b : ℚ} (hb : b ≠ 0) (e : ℤ) : b ^ e.toNat / b ^ (-e).toNat = b ^ e := by
  rw [← zpow_natCast, ← zpow_natCast, ← zpow_sub₀ hb]
  congr 1
  omega

theorem div_lt_two_zpow_iff {num den : Nat} (hden : 0 < den) (e : ℤ) :
    (num : ℚ) / den < 2 ^ e ↔ num * Nat.pow 2 (-e).toNat < den * Nat.pow 2 e.toNat := by
  have hden' : (0 : ℚ) < den := by exact_mod_cast hden
  have hpow : (0 : ℚ) < 2 ^ (-e).toNat := by positivity
  rw [← pow_toNat_div two_ne_zero, div_lt_div_iff₀ hden' hpow, mul_comm ((2 : ℚ) ^ e.toNat)]
  exact_mod_cast Iff.rfl

/-- The greatest power of two that is not above a quotient, as `ofRatio` finds it. -/
def highBit (num den : Nat) : Int :=
  let estimate : Int := (Nat.log2 num : Int) - Nat.log2 den
  if num * Nat.pow 2 (-estimate).toNat < den * Nat.pow 2 estimate.toNat then estimate - 1
  else estimate

theorem two_pow_log2_le {n : Nat} (hn : n ≠ 0) : (2 : ℚ) ^ n.log2 ≤ n := by
  exact_mod_cast Nat.log2_self_le hn

theorem lt_two_pow_log2_succ (n : Nat) : (n : ℚ) < 2 ^ (n.log2 + 1) := by
  exact_mod_cast Nat.lt_log2_self

theorem highBit_spec {num den : Nat} (hnum : num ≠ 0) (hden : den ≠ 0) :
    (2 : ℚ) ^ highBit num den ≤ num / den ∧ (num : ℚ) / den < 2 ^ (highBit num den + 1) := by
  have hpos : 0 < den := Nat.pos_of_ne_zero hden
  have hden' : (0 : ℚ) < den := by exact_mod_cast hpos
  -- The estimate is off by one at most, and never too small.
  have hupper : (num : ℚ) / den < 2 ^ ((num.log2 : ℤ) - den.log2 + 1) := by
    rw [div_lt_iff₀ hden']
    calc (num : ℚ) < 2 ^ (num.log2 + 1) := lt_two_pow_log2_succ num
      _ = 2 ^ ((num.log2 : ℤ) - den.log2 + 1) * 2 ^ den.log2 := by
          rw [← zpow_natCast, ← zpow_natCast, ← zpow_add₀ two_ne_zero]
          congr 1
          push_cast
          ring
      _ ≤ 2 ^ ((num.log2 : ℤ) - den.log2 + 1) * den :=
          mul_le_mul_of_nonneg_left (two_pow_log2_le hden) (by positivity)
  have hlower : (2 : ℚ) ^ ((num.log2 : ℤ) - den.log2 - 1) ≤ num / den := by
    rw [le_div_iff₀ hden']
    calc (2 : ℚ) ^ ((num.log2 : ℤ) - den.log2 - 1) * den
        ≤ 2 ^ ((num.log2 : ℤ) - den.log2 - 1) * 2 ^ (den.log2 + 1) :=
          mul_le_mul_of_nonneg_left (lt_two_pow_log2_succ den).le (by positivity)
      _ = 2 ^ num.log2 := by
          rw [← zpow_natCast, ← zpow_natCast, ← zpow_add₀ two_ne_zero]
          congr 1
          push_cast
          ring
      _ ≤ num := two_pow_log2_le hnum
  simp only [highBit]
  split
  · next hlt =>
      rw [sub_add_cancel]
      exact ⟨hlower, (div_lt_two_zpow_iff hpos _).mpr hlt⟩
  · next hge =>
      exact ⟨not_lt.mp fun hlt => hge ((div_lt_two_zpow_iff hpos _).mp hlt), hupper⟩

theorem zpow_unique {q : ℚ} {a b : ℤ} (ha : (2 : ℚ) ^ a ≤ q) (ha' : q < 2 ^ (a + 1))
    (hb : (2 : ℚ) ^ b ≤ q) (hb' : q < 2 ^ (b + 1)) : a = b := by
  have hab : a < b + 1 := (zpow_lt_zpow_iff_right₀ one_lt_two).mp (ha.trans_lt hb')
  have hba : b < a + 1 := (zpow_lt_zpow_iff_right₀ one_lt_two).mp (hb.trans_lt ha')
  omega

/-- The number with the multiple of `2 ^ k` that is nearest to a quotient. -/
def ofScale (negative : Bool) (num den : Nat) (k : Int) : Option Binary64 :=
  let m := roundHalfEven (num * Nat.pow 2 (-k).toNat) (den * Nat.pow 2 k.toNat)
  let magnitude := (k + 1074).toNat * Nat.pow 2 52 + m
  if h : magnitude < limit then some ⟨negative, magnitude, h⟩ else none

theorem ofRatio_of_ne_zero (negative : Bool) {num : Nat} (den : Nat) (hnum : num ≠ 0) :
    ofRatio negative num den = ofScale negative num den (max (highBit num den - 52) (-1074)) := by
  rw [ofRatio, if_neg hnum]
  rfl

theorem roundHalfEven_mul (m : Nat) {den : Nat} (hden : 0 < den) :
    roundHalfEven (m * den) den = m := by
  simp [roundHalfEven, hden]

variable {x : Binary64}

theorem significand_pos (hx : x.isZero = false) : 0 < x.significand := by
  have hne : x.magnitude ≠ 0 := by simpa [isZero] using hx
  unfold significand
  split
  · omega
  · exact Nat.add_pos_left (by decide) _

theorem magnitude_eq (x : Binary64) :
    (x.scale + 1074).toNat * Nat.pow 2 52 + x.significand = x.magnitude := by
  have hpow : Nat.pow 2 52 = 4503599627370496 := rfl
  unfold scale significand
  rw [hpow]
  split <;> omega

theorem scale_bounds (x : Binary64) : -1074 ≤ x.scale ∧ x.scale ≤ 971 := by
  have hfinite := x.finite
  have hpow : Nat.pow 2 52 = 4503599627370496 := rfl
  unfold limit at hfinite
  unfold scale
  rw [hpow] at hfinite ⊢
  split <;> omega

theorem significand_lt (x : Binary64) : x.significand < 2 ^ 53 := by
  have hpow : Nat.pow 2 52 = 2 ^ 52 := rfl
  unfold significand
  rw [hpow]
  split <;> omega

theorem value_pos (hx : x.isZero = false) : 0 < x.value := by
  have hsignificand : (0 : ℚ) < x.significand := by exact_mod_cast significand_pos hx
  exact mul_pos hsignificand (by positivity)

/-- The scale is that of the leading bit, fifty-two places further down, but it ends at the
smallest one. -/
theorem scale_eq {e : Int} (hlow : (2 : ℚ) ^ e ≤ x.value) (hhigh : x.value < 2 ^ (e + 1)) :
    max (e - 52) (-1074) = x.scale := by
  have hpow : Nat.pow 2 52 = 2 ^ 52 := rfl
  unfold value at hlow hhigh
  by_cases hsubnormal : x.magnitude < Nat.pow 2 52
  · have hscale : x.scale = -1074 := if_pos hsubnormal
    have hsignificand : (x.significand : ℚ) < 2 ^ (52 : ℤ) := by
      rw [significand, if_pos hsubnormal]
      exact_mod_cast hsubnormal
    have hlt : (2 : ℚ) ^ e < 2 ^ ((52 : ℤ) + x.scale) := by
      rw [zpow_add₀ two_ne_zero]
      exact hlow.trans_lt (mul_lt_mul_of_pos_right hsignificand (by positivity))
    have hexponent := (zpow_lt_zpow_iff_right₀ one_lt_two).mp hlt
    omega
  · have hscale : x.scale = (x.magnitude / Nat.pow 2 52 : Nat) - 1075 := if_neg hsubnormal
    have hbounds : 2 ^ 52 ≤ x.significand ∧ x.significand < 2 ^ 53 := by
      rw [significand, if_neg hsubnormal, hpow]
      omega
    have hleast : (2 : ℚ) ^ (x.scale + 52) ≤ x.significand * 2 ^ x.scale := by
      rw [add_comm, zpow_add₀ two_ne_zero]
      refine mul_le_mul_of_nonneg_right ?_ (by positivity)
      exact_mod_cast hbounds.1
    have hmost : x.significand * 2 ^ x.scale < (2 : ℚ) ^ (x.scale + 52 + 1) := by
      rw [add_assoc, add_comm x.scale, zpow_add₀ two_ne_zero]
      refine mul_lt_mul_of_pos_right ?_ (by positivity)
      exact_mod_cast hbounds.2
    have hexponent := zpow_unique hlow hhigh hleast hmost
    have hnormal : 1 ≤ x.magnitude / Nat.pow 2 52 := by
      rw [hpow] at hsubnormal ⊢
      omega
    omega

/-- A quotient that is the value of a number is rounded to that number. -/
theorem ofRatio_eq {num den : Nat} (hden : den ≠ 0) (hx : x.isZero = false)
    (h : (num : ℚ) / den = x.value) : ofRatio x.negative num den = some x := by
  have hden' : (den : ℚ) ≠ 0 := by exact_mod_cast hden
  have hnum : num ≠ 0 := by
    rintro rfl
    have hpos := value_pos hx
    rw [← h] at hpos
    simp at hpos
  obtain ⟨hlow, hhigh⟩ := highBit_spec hnum hden
  rw [h] at hlow hhigh
  have hscale := scale_eq hlow hhigh
  have hwhole : num * Nat.pow 2 (-x.scale).toNat =
      x.significand * (den * Nat.pow 2 x.scale.toNat) := by
    rw [value, ← pow_toNat_div two_ne_zero, div_eq_iff hden', mul_div_assoc',
      div_mul_eq_mul_div, eq_div_iff (by positivity)] at h
    have hcast : num * 2 ^ (-x.scale).toNat = x.significand * 2 ^ x.scale.toNat * den := by
      exact_mod_cast h
    simp only [Nat.pow_eq, hcast]
    ring
  have hpos : 0 < den * Nat.pow 2 x.scale.toNat :=
    Nat.mul_pos (Nat.pos_of_ne_zero hden) (Nat.pow_pos (by decide))
  rw [ofRatio_of_ne_zero _ _ hnum, hscale]
  simp only [ofScale, hwhole, roundHalfEven_mul _ hpos, magnitude_eq x, x.finite, dif_pos]

end ContentForms.Binary64

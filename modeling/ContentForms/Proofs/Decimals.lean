import ContentForms.Binary64.Decimal
import ContentForms.Proofs.Digits
import ContentForms.Proofs.Rounding
import Mathlib.Tactic.FieldSimp
import Mathlib.Tactic.NormNum

/-!
Decimals of numbers. A decimal is read by its value alone: zeros at the end of its digits make no
difference, and neither of the two shortcuts of `ofDecimal` applies to the value of a number other
than zero. So the exact decimal of a number is read as that number, and the shortest one is too.
-/

namespace ContentForms.Binary64

def Decimal.value (d : Decimal) : ℚ :=
  d.digits * 10 ^ d.exponent

theorem pow_digitCount_le {n : Nat} (hn : n ≠ 0) : 10 ^ (digitCount n - 1) ≤ n := by
  by_contra hlt
  have hpos : 0 < digitCount n := Nat.length_toDigits_pos
  by_cases hone : digitCount n = 1
  · simp [hone] at hlt
    omega
  · have hle : digitCount n ≤ digitCount n - 1 :=
      (Nat.length_toDigits_le_iff (by decide) (by omega)).mpr (not_le.mp hlt)
    omega

theorem lt_pow_digitCount (n : Nat) : n < 10 ^ digitCount n :=
  (Nat.length_toDigits_le_iff (by decide) Nat.length_toDigits_pos).mp le_rfl

theorem trailingZeros_mul_ten {n : Nat} (hn : n ≠ 0) :
    trailingZeros (n * 10) = trailingZeros n + 1 := by
  simp [trailingZeros, Text.decimal_mul_ten hn]

theorem normal_mul_ten (n : Nat) (e : Int) :
    Decimal.normal ⟨n * 10, e⟩ = Decimal.normal ⟨n, e + 1⟩ := by
  by_cases hn : n = 0
  · simp [Decimal.normal, hn]
  · have hdiv : n * 10 / 10 ^ (trailingZeros n + 1) = n / 10 ^ trailingZeros n := by
      rw [pow_succ, Nat.mul_div_mul_right _ _ (by decide)]
    simp [Decimal.normal, hn, trailingZeros_mul_ten hn, hdiv]
    omega

/-- Units of a smaller power of ten make no difference. -/
theorem normal_mul_pow (n k : Nat) (e : Int) :
    Decimal.normal ⟨n * 10 ^ k, e⟩ = Decimal.normal ⟨n, e + k⟩ := by
  induction k generalizing e with
  | zero => simp
  | succ k ih =>
      rw [pow_succ, ← mul_assoc, normal_mul_ten, ih]
      congr 2
      push_cast
      ring

theorem trailingZeros_of_mod_ne {n : Nat} (hn : n % 10 ≠ 0) : trailingZeros n = 0 := by
  have hlast : Nat.digitChar (n % 10) ≠ '0' := by simpa using hn
  rw [trailingZeros, Text.decimal_eq, List.reverse_append]
  simp [hlast]

theorem pow_trailingZeros_dvd (n : Nat) : 10 ^ trailingZeros n ∣ n := by
  induction n using Nat.strong_induction_on with
  | _ n ih =>
      by_cases hten : n % 10 = 0
      · obtain rfl | hn := eq_or_ne n 0
        · exact dvd_zero _
        · obtain ⟨k, rfl⟩ : ∃ k, n = k * 10 := ⟨n / 10, by omega⟩
          rw [trailingZeros_mul_ten (by omega), pow_succ]
          exact Nat.mul_dvd_mul_right (ih k (by omega)) 10
      · rw [trailingZeros_of_mod_ne hten, pow_zero]
        exact one_dvd n

theorem digits_eq_normal {d : Decimal} (h : d.digits ≠ 0) :
    d = ⟨d.normal.digits * 10 ^ trailingZeros d.digits,
      d.normal.exponent - trailingZeros d.digits⟩ := by
  have hdvd := Nat.div_mul_cancel (pow_trailingZeros_dvd d.digits)
  simp [Decimal.normal, h, hdvd]

theorem normal_normal (d : Decimal) : d.normal.normal = d.normal := by
  by_cases h : d.digits = 0
  · simp [Decimal.normal, h]
  · conv => rhs; rw [digits_eq_normal h, normal_mul_pow, sub_add_cancel]

theorem ofDecimal_congr {d d' : Decimal} (h : d.normal = d'.normal) (negative : Bool) :
    ofDecimal negative d = ofDecimal negative d' := by
  unfold ofDecimal
  rw [h]

theorem value_normal (d : Decimal) : d.normal.value = d.value := by
  by_cases h : d.digits = 0
  · simp [Decimal.normal, Decimal.value, h]
  · conv => rhs; rw [digits_eq_normal h]
    simp only [Decimal.value]
    push_cast
    rw [zpow_sub₀ (by norm_num), zpow_natCast]
    field_simp

/-- A decimal lies between the powers of ten that the number of its digits says. -/
theorem value_bounds {d : Decimal} (h : d.digits ≠ 0) :
    (10 : ℚ) ^ ((digitCount d.digits : ℤ) + d.exponent - 1) ≤ d.value ∧
      d.value < 10 ^ ((digitCount d.digits : ℤ) + d.exponent) := by
  have hcount : 0 < digitCount d.digits := Nat.length_toDigits_pos
  have hlow : (10 : ℚ) ^ ((digitCount d.digits : ℤ) - 1) ≤ d.digits := by
    have hcast : ((digitCount d.digits : ℤ) - 1) = ((digitCount d.digits - 1 : Nat) : ℤ) := by omega
    rw [hcast, zpow_natCast]
    exact_mod_cast pow_digitCount_le h
  have hhigh : (d.digits : ℚ) < 10 ^ (digitCount d.digits : ℤ) := by
    rw [zpow_natCast]
    exact_mod_cast lt_pow_digitCount d.digits
  constructor
  · rw [add_sub_right_comm, zpow_add₀ (by norm_num)]
    exact mul_le_mul_of_nonneg_right hlow (by positivity)
  · rw [zpow_add₀ (by norm_num)]
    exact mul_lt_mul_of_pos_right hhigh (by positivity)

/-! ### The decimals of a number -/

variable {x : Binary64}

theorem ten_zpow_le_two_zpow : (10 : ℚ) ^ (-330 : ℤ) ≤ 2 ^ (-1074 : ℤ) := by
  have hpow : (2 : ℚ) ^ 1074 ≤ 10 ^ 330 := by
    have hnat : 2 ^ 1074 ≤ 10 ^ 330 := by decide +kernel
    exact_mod_cast hnat
  rw [zpow_neg, zpow_neg]
  exact inv_anti₀ (by positivity) hpow

theorem two_zpow_le_ten_zpow : (2 : ℚ) ^ (53 : ℤ) * 2 ^ (971 : ℤ) ≤ 10 ^ (309 : ℤ) := by
  have hnat : 2 ^ 53 * 2 ^ 971 ≤ 10 ^ 309 := by decide +kernel
  exact_mod_cast hnat

theorem le_value (hx : x.isZero = false) : (10 : ℚ) ^ (-330 : ℤ) ≤ x.value := by
  have hsignificand : (1 : ℚ) ≤ x.significand := by exact_mod_cast significand_pos hx
  calc (10 : ℚ) ^ (-330 : ℤ) ≤ 2 ^ (-1074 : ℤ) := ten_zpow_le_two_zpow
    _ ≤ 2 ^ x.scale := zpow_le_zpow_right₀ one_le_two (scale_bounds x).1
    _ ≤ x.significand * 2 ^ x.scale := le_mul_of_one_le_left (by positivity) hsignificand

theorem value_lt (x : Binary64) : x.value < (10 : ℚ) ^ (309 : ℤ) := by
  have hsignificand : (x.significand : ℚ) < 2 ^ (53 : ℤ) := by exact_mod_cast significand_lt x
  calc (x.significand : ℚ) * 2 ^ x.scale < 2 ^ (53 : ℤ) * 2 ^ x.scale :=
        mul_lt_mul_of_pos_right hsignificand (by positivity)
    _ ≤ 2 ^ (53 : ℤ) * 2 ^ (971 : ℤ) :=
        mul_le_mul_of_nonneg_left (zpow_le_zpow_right₀ one_le_two (scale_bounds x).2)
          (by positivity)
    _ ≤ 10 ^ (309 : ℤ) := two_zpow_le_ten_zpow

/-- A decimal that has the value of a number is read as that number. -/
theorem ofDecimal_eq {d : Decimal} (hx : x.isZero = false) (h : d.value = x.value) :
    ofDecimal x.negative d = some x := by
  have hvalue : d.normal.value = x.value := (value_normal d).trans h
  have hdigits : d.normal.digits ≠ 0 := by
    intro hzero
    have hpos := value_pos hx
    rw [← hvalue, Decimal.value, hzero] at hpos
    simp at hpos
  obtain ⟨hlow, hhigh⟩ := value_bounds hdigits
  rw [hvalue] at hlow hhigh
  have htop := (zpow_lt_zpow_iff_right₀ (by norm_num : (1 : ℚ) < 10)).mp
    (hlow.trans_lt (value_lt x))
  have hbottom := (zpow_lt_zpow_iff_right₀ (by norm_num : (1 : ℚ) < 10)).mp
    ((le_value hx).trans_lt hhigh)
  simp only [ofDecimal, if_neg hdigits]
  rw [if_neg (by omega), if_neg (by omega)]
  refine ofRatio_eq (Nat.pos_iff_ne_zero.mp (Nat.pow_pos (by decide))) hx ?_
  rw [← hvalue, Decimal.value, ← pow_toNat_div (by norm_num : (10 : ℚ) ≠ 0)]
  simp [mul_div_assoc]

theorem value_exactDecimal (x : Binary64) : x.exactDecimal.value = x.value := by
  unfold exactDecimal Decimal.value value
  split
  · next hscale =>
      obtain ⟨s, hs⟩ := Int.eq_ofNat_of_zero_le hscale
      simp [hs]
  · next hscale =>
      obtain ⟨s, hs⟩ := Int.eq_ofNat_of_zero_le (by omega : 0 ≤ -x.scale)
      have hneg : x.scale = -(s : ℤ) := by omega
      have hten : (10 : ℚ) ^ s = 5 ^ s * 2 ^ s := by rw [← mul_pow]; norm_num
      simp only [hneg, neg_neg, Int.toNat_natCast, Nat.pow_eq, zpow_neg, zpow_natCast, hten]
      push_cast
      field_simp

theorem ofDecimal_shortest (hx : x.isZero = false) : ofDecimal x.negative x.shortest = some x := by
  unfold shortest
  dsimp only
  cases hfound : (List.range (digitCount x.exactDecimal.digits)).findSome? fun kept =>
      (neighbours x.exactDecimal (digitCount x.exactDecimal.digits - (kept + 1))).find?
        fun d => ofDecimal x.negative d == some x with
  | none => exact ofDecimal_eq hx (value_exactDecimal x)
  | some d =>
      obtain ⟨kept, -, hfind⟩ := List.exists_of_findSome?_eq_some hfound
      simpa using List.find?_some hfind

end ContentForms.Binary64

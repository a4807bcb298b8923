import ContentForms.Proofs.Decimals

/-!
Rounding whole numbers. Up to `2 ^ 53` every whole number is the value of a number and is rounded to
itself. The next one lies halfway between its neighbours and goes down to the even one, which is
`2 ^ 53` once more, and all that are greater stay above it. So `2 ^ 53` is the only value in this
range that stands for two whole numbers.
-/

namespace ContentForms.Binary64

variable {x : Binary64} {n : Nat}

/-! ### Values -/

/-- The value of a number that has been put together from a scale and its significand. A significand
that has grown by one bit carries into the scale and leaves the value as it is. -/
theorem value_eq_of_magnitude {k : Int} {m : Nat} (hk : -1074 ≤ k) (hlow : 2 ^ 52 ≤ m)
    (hhigh : m ≤ 2 ^ 53) (h : x.magnitude = (k + 1074).toNat * Nat.pow 2 52 + m) :
    x.value = m * 2 ^ k := by
  have hpow : Nat.pow 2 52 = 4503599627370496 := rfl
  rw [hpow] at h
  rcases hhigh.lt_or_eq with hlt | rfl
  · have hsignificand : x.significand = m := by
      rw [significand, hpow, if_neg (by omega)]
      omega
    have hscale : x.scale = k := by
      rw [scale, hpow, if_neg (by omega)]
      omega
    rw [value, hsignificand, hscale]
  · have hsignificand : x.significand = 2 ^ 52 := by
      rw [significand, hpow, if_neg (by omega)]
      omega
    have hscale : x.scale = k + 1 := by
      rw [scale, hpow, if_neg (by omega)]
      omega
    rw [value, hsignificand, hscale, zpow_add_one₀ two_ne_zero]
    push_cast
    ring

theorem value_eq_ratio (x : Binary64) : x.value = (x.ratio.1 : ℚ) / x.ratio.2 := by
  rw [value, ← pow_toNat_div two_ne_zero]
  simp [ratio, mul_div_assoc]

theorem ratio_pos (x : Binary64) : 0 < x.ratio.2 :=
  Nat.pow_pos (by decide)

theorem toInt?_of_value (h : x.value = n) :
    x.toInt? = some (if x.negative then -(n : Int) else n) := by
  have hwhole : x.ratio.1 = n * x.ratio.2 := by
    rw [value_eq_ratio, div_eq_iff (by exact_mod_cast (ratio_pos x).ne')] at h
    exact_mod_cast h
  have hmod : x.ratio.1 % x.ratio.2 = 0 := by rw [hwhole, Nat.mul_mod_left]
  have hdiv : x.ratio.1 / x.ratio.2 = n := by rw [hwhole, Nat.mul_div_cancel _ (ratio_pos x)]
  rw [toInt?]
  simp only [hmod, if_true, hdiv]

theorem natAbs_of_toInt? {i : Int} (h : x.toInt? = some i) : (i.natAbs : ℚ) = x.value := by
  rw [toInt?] at h
  dsimp only at h
  split at h
  · next hmod =>
      have habs : i.natAbs = x.ratio.1 / x.ratio.2 := by
        cases h
        split
        · exact (Int.natAbs_neg _).trans (Int.natAbs_natCast _)
        · exact Int.natAbs_natCast _
      have hwhole := Nat.div_mul_cancel (Nat.dvd_of_mod_eq_zero hmod)
      rw [value_eq_ratio, habs, eq_div_iff (by exact_mod_cast (ratio_pos x).ne')]
      exact_mod_cast hwhole
  · cases h

theorem value_zero (negative : Bool) : (zero negative).value = 0 := by
  cases negative <;> simp [value, significand, zero]

/-! ### Rounding -/

/-- Up to `2 ^ 53` every whole number is the value of a number of either sign. -/
theorem exists_value_eq (hn : n ≠ 0) (h : n ≤ 2 ^ 53) (negative : Bool) :
    ∃ x : Binary64, x.negative = negative ∧ x.isZero = false ∧ x.value = n := by
  have hlog := Nat.log2_self_le hn
  have hlog' : n < 2 ^ (n.log2 + 1) := Nat.lt_log2_self
  -- Shifted to the left as far as it goes, the number fills the significand.
  obtain ⟨shift, hshift, hlow, hhigh⟩ :
      ∃ shift ≤ 52, 2 ^ 52 ≤ n * 2 ^ shift ∧ n * 2 ^ shift ≤ 2 ^ 53 := by
    by_cases hsmall : n.log2 ≤ 52
    · have hpow (e : Nat) : 2 ^ (n.log2 + e) * 2 ^ (52 - n.log2) = 2 ^ (52 + e) := by
        rw [← Nat.pow_add]
        congr 1
        omega
      refine ⟨52 - n.log2, by omega, ?_, ?_⟩
      · rw [← hpow 0]
        exact Nat.mul_le_mul_right _ hlog
      · rw [← hpow 1]
        exact Nat.mul_le_mul_right _ hlog'.le
    · have hgreat : 2 ^ 53 ≤ n := le_trans (Nat.pow_le_pow_right (by decide) (by omega)) hlog
      exact ⟨0, by decide, by omega, by omega⟩
  have hfinite : (-(shift : Int) + 1074).toNat * Nat.pow 2 52 + n * 2 ^ shift < limit := by
    have hpow : Nat.pow 2 52 = 4503599627370496 := rfl
    rw [limit, hpow]
    omega
  refine ⟨⟨negative, _, hfinite⟩, rfl, ?_, ?_⟩
  · simp [isZero, hn]
  · rw [value_eq_of_magnitude (k := -shift) (by omega) hlow hhigh rfl]
    push_cast
    rw [zpow_neg, zpow_natCast]
    field_simp

theorem ofDecimal_whole (h : n ≤ 2 ^ 53) (negative : Bool) :
    ∃ x, ofDecimal negative ⟨n, 0⟩ = some x ∧ x.negative = negative ∧ x.value = n := by
  by_cases hn : n = 0
  · subst hn
    exact ⟨zero negative, rfl, rfl, by simp [value_zero]⟩
  · obtain ⟨x, rfl, hx, hvalue⟩ := exists_value_eq hn h negative
    exact ⟨x, ofDecimal_eq hx (by simp [Decimal.value, hvalue]), rfl, hvalue⟩

/-- The first whole number that is no value is halfway between two, of which the lower is even. -/
theorem ofDecimal_halfway (negative : Bool) :
    ofDecimal negative ⟨2 ^ 53 + 1, 0⟩ = ofDecimal negative ⟨2 ^ 53, 0⟩ := by
  cases negative <;> decide +kernel

/-- Trailing zeros and shortcuts aside, a whole number is rounded as a quotient by one. -/
theorem ofRatio_of_ofDecimal (hn : n ≠ 0) {negative : Bool}
    (h : ofDecimal negative ⟨n, 0⟩ = some x) : ofRatio negative n 1 = some x := by
  have hnormal : (Decimal.mk n 0).normal = ⟨n / 10 ^ trailingZeros n, trailingZeros n⟩ := by
    simp [Decimal.normal, hn]
  have hwhole : n / 10 ^ trailingZeros n * 10 ^ trailingZeros n = n :=
    Nat.div_mul_cancel (pow_trailingZeros_dvd n)
  have hdigits : n / 10 ^ trailingZeros n ≠ 0 := by
    intro hzero
    rw [hzero, Nat.zero_mul] at hwhole
    exact hn hwhole.symm
  rw [ofDecimal, hnormal] at h
  simp only [if_neg hdigits] at h
  split at h
  · cases h
  · rw [if_neg (by omega)] at h
    simpa [hwhole] using h

theorem roundHalfEven_bounds (num den : Nat) :
    num / den ≤ roundHalfEven num den ∧ roundHalfEven num den ≤ num / den + 1 := by
  unfold roundHalfEven
  dsimp only
  split
  · omega
  · split <;> omega

theorem highBit_one (hn : n ≠ 0) : highBit n 1 = n.log2 := by
  have hone : Nat.log2 1 = 0 := by decide
  have hle := Nat.log2_self_le hn
  simp only [highBit, hone, Nat.cast_zero, sub_zero, Int.toNat_natCast, Nat.pow_eq, one_mul]
  rw [if_neg (by simpa using hle)]

theorem lt_value_of_ofDecimal (h : 2 ^ 53 + 1 < n) {negative : Bool}
    (hx : ofDecimal negative ⟨n, 0⟩ = some x) : 2 ^ 53 < x.value := by
  have hn : n ≠ 0 := by omega
  have hlog := Nat.log2_self_le hn
  have hlog' : n < 2 ^ (n.log2 + 1) := Nat.lt_log2_self
  have hhigh : 53 ≤ n.log2 := (Nat.le_log2 hn).mpr (by omega)
  obtain ⟨shift, hshift⟩ := Nat.exists_eq_add_of_le hhigh
  have hscale : max (highBit n 1 - 52) (-1074) = ((shift + 1 : Nat) : Int) := by
    rw [highBit_one hn, hshift]
    omega
  have hround := ofRatio_of_ofDecimal hn hx
  rw [ofRatio_of_ne_zero negative 1 hn, hscale, ofScale] at hround
  simp only [Int.toNat_neg_natCast, Int.toNat_natCast, Nat.pow_eq, pow_zero, mul_one, one_mul]
    at hround
  split at hround
  · cases hround
    have hpow (e : Nat) : 2 ^ (n.log2 + e) = 2 ^ (52 + e) * 2 ^ (shift + 1) := by
      rw [hshift, ← Nat.pow_add]
      congr 1
      omega
    obtain ⟨hfloor, hceil⟩ := roundHalfEven_bounds n (2 ^ (shift + 1))
    have hleast : 2 ^ 52 ≤ n / 2 ^ (shift + 1) :=
      (Nat.le_div_iff_mul_le (by positivity)).mpr ((hpow 0).symm.le.trans hlog)
    have hmost : n / 2 ^ (shift + 1) < 2 ^ 53 :=
      (Nat.div_lt_iff_lt_mul (by positivity)).mpr (hlog'.trans_le (hpow 1).le)
    rw [value_eq_of_magnitude (k := (shift + 1 : Nat)) (by omega) (by omega) (by omega) rfl,
      zpow_natCast]
    have hgreater : 2 ^ 53 < roundHalfEven n (2 ^ (shift + 1)) * 2 ^ (shift + 1) := by
      refine Nat.lt_of_lt_of_le ?_ (Nat.mul_le_mul_right _ hfloor)
      cases shift with
      | zero => omega
      | succ shift =>
          calc 2 ^ 53 < 2 ^ 52 * 2 ^ 2 := by decide
            _ ≤ 2 ^ 52 * 2 ^ (shift + 1 + 1) :=
                Nat.mul_le_mul_left _ (Nat.pow_le_pow_right (by decide) (by omega))
            _ ≤ n / 2 ^ (shift + 1 + 1) * 2 ^ (shift + 1 + 1) := Nat.mul_le_mul_right _ hleast
    exact_mod_cast hgreater
  · cases hround

end ContentForms.Binary64

import ContentForms.Binary64.Arithmetic
import ContentForms.Proofs.WholeNumbers

/-!
Rounding keeps the order. The magnitude that is nearest to a quotient grows with the quotient: at
one scale the rounded quotient does, and where the scale changes the magnitudes of the one scale end
where those of the next begin. So a product is finite if a greater product is, and a quotient by one
or more always is.
-/

namespace ContentForms.Binary64

/-- A whole number is below the rounded quotient if the half above it is below the quotient, or is
the quotient and the even neighbour lies above. -/
theorem lt_roundHalfEven_iff {num den : Nat} (hden : 0 < den) (m : Nat) :
    m < roundHalfEven num den ↔
      (2 * m + 1) * den < 2 * num ∨ ((2 * m + 1) * den = 2 * num ∧ m % 2 = 1) := by
  have hdiv := Nat.div_add_mod num den
  have hmod := Nat.mod_lt num hden
  unfold roundHalfEven
  dsimp only
  generalize num / den = q at hdiv ⊢
  generalize num % den = r at hdiv hmod ⊢
  subst hdiv
  have hexpand : (2 * m + 1) * den = 2 * (den * m) + den := by ring
  rw [hexpand]
  rcases lt_trichotomy m q with hlt | rfl | hlt
  · have hstep : den * m + den ≤ den * q := by
      rw [← Nat.mul_succ]
      exact Nat.mul_le_mul_left den hlt
    refine ⟨fun _ => .inl (by omega), fun _ => ?_⟩
    split
    · exact hlt
    · split <;> omega
  · split
    · omega
    · split <;> omega
  · have hstep : den * q + den ≤ den * m := by
      rw [← Nat.mul_succ]
      exact Nat.mul_le_mul_left den hlt
    refine ⟨fun h => ?_, fun h => by omega⟩
    split at h
    · omega
    · split at h <;> omega

theorem roundHalfEven_mono {num den num' den' : Nat} (hden : 0 < den) (hden' : 0 < den')
    (h : (num : ℚ) / den ≤ num' / den') : roundHalfEven num den ≤ roundHalfEven num' den' := by
  have hcross : num * den' ≤ num' * den := by
    rw [div_le_div_iff₀ (by exact_mod_cast hden) (by exact_mod_cast hden')] at h
    exact_mod_cast h
  refine not_lt.mp fun hlt => ?_
  refine lt_irrefl (roundHalfEven num' den') ((lt_roundHalfEven_iff hden' _).mpr ?_)
  have hhalf := (lt_roundHalfEven_iff hden _).mp hlt
  generalize 2 * roundHalfEven num' den' + 1 = half at hhalf ⊢
  have hswap : half * den' * den = half * den * den' := by ring
  rcases hhalf with hless | ⟨heq, hodd⟩
  · refine .inl (Nat.lt_of_mul_lt_mul_right (a := den) ?_)
    calc half * den' * den = half * den * den' := hswap
      _ < 2 * num * den' := Nat.mul_lt_mul_of_pos_right hless hden'
      _ ≤ 2 * num' * den := by linarith
  · have hle : half * den' ≤ 2 * num' := by
      refine Nat.le_of_mul_le_mul_right (c := den) ?_ hden
      calc half * den' * den = half * den * den' := hswap
        _ = 2 * num * den' := by rw [heq]
        _ ≤ 2 * num' * den := by linarith
    rcases hle.lt_or_eq with hless | heq'
    · exact .inl hless
    · exact .inr ⟨heq', hodd⟩

theorem roundHalfEven_le {num den m : Nat} (hden : 0 < den) (h : (num : ℚ) / den ≤ m) :
    roundHalfEven num den ≤ m := by
  rw [← roundHalfEven_mul m Nat.one_pos]
  exact roundHalfEven_mono hden Nat.one_pos (by rwa [Nat.mul_one, Nat.cast_one, div_one])

theorem le_roundHalfEven {num den m : Nat} (hden : 0 < den) (h : (m : ℚ) ≤ num / den) :
    m ≤ roundHalfEven num den := by
  rw [← roundHalfEven_mul m Nat.one_pos]
  exact roundHalfEven_mono Nat.one_pos hden (by rwa [Nat.mul_one, Nat.cast_one, div_one])

def nearest (num den : Nat) : Nat :=
  if num = 0 then 0
  else
    let k := max (highBit num den - 52) (-1074)
    (k + 1074).toNat * Nat.pow 2 52 +
      roundHalfEven (num * Nat.pow 2 (-k).toNat) (den * Nat.pow 2 k.toNat)

theorem ofRatio_eq_nearest (negative : Bool) (num den : Nat) :
    ofRatio negative num den =
      if h : nearest num den < limit then some ⟨negative, nearest num den, h⟩ else none := by
  by_cases hnum : num = 0
  · have hzero : nearest num den = 0 := if_pos hnum
    rw [ofRatio, if_pos hnum]
    simp only [hzero]
    rfl
  · rw [ofRatio_of_ne_zero _ _ hnum, ofScale]
    simp only [nearest, if_neg hnum]

theorem div_scaled (num den : Nat) (k : Int) :
    ((num * Nat.pow 2 (-k).toNat : Nat) : ℚ) / (den * Nat.pow 2 k.toNat : Nat) =
      num / den / 2 ^ k := by
  rw [← pow_toNat_div two_ne_zero]
  push_cast [Nat.pow_eq]
  rw [div_div_eq_mul_div, div_mul_eq_mul_div, div_div]

theorem nearest_mono {num den num' den' : Nat} (hden : den ≠ 0) (hden' : den' ≠ 0)
    (h : (num : ℚ) / den ≤ num' / den') : nearest num den ≤ nearest num' den' := by
  by_cases hnum : num = 0
  · rw [nearest, if_pos hnum]
    exact Nat.zero_le _
  have hpos : (0 : ℚ) < num / den := by positivity
  have hnum' : num' ≠ 0 := by
    rintro rfl
    rw [Nat.cast_zero, zero_div] at h
    exact absurd h (not_le.mpr hpos)
  obtain ⟨hlow, hhigh⟩ := highBit_spec hnum hden
  obtain ⟨hlow', hhigh'⟩ := highBit_spec hnum' hden'
  have hbit := (zpow_lt_zpow_iff_right₀ one_lt_two).mp (hlow.trans_lt (h.trans_lt hhigh'))
  simp only [nearest, if_neg hnum, if_neg hnum']
  obtain ⟨k, hk⟩ : ∃ k, max (highBit num den - 52) (-1074) = k := ⟨_, rfl⟩
  obtain ⟨k', hk'⟩ : ∃ k, max (highBit num' den' - 52) (-1074) = k := ⟨_, rfl⟩
  rw [hk, hk']
  have hscaled (num : Nat) {den : Nat} (hden : den ≠ 0) (k : Int) : 0 < den * Nat.pow 2 k.toNat :=
    Nat.mul_pos (Nat.pos_of_ne_zero hden) (Nat.pow_pos (by decide))
  rcases (show k ≤ k' by omega).eq_or_lt with rfl | hlt
  · refine Nat.add_le_add_left (roundHalfEven_mono (hscaled num hden k) (hscaled num' hden' k) ?_) _
    rw [div_scaled, div_scaled]
    exact div_le_div_of_nonneg_right h (by positivity)
  · -- A carry out of the smaller scale ends where the greater one begins.
    have hupper :
        roundHalfEven (num * Nat.pow 2 (-k).toNat) (den * Nat.pow 2 k.toNat) ≤ 2 ^ 53 := by
      have hcarry : (2 : ℚ) ^ (highBit num den + 1) ≤ 2 ^ (53 : ℤ) * 2 ^ k := by
        rw [← zpow_add₀ two_ne_zero]
        exact zpow_le_zpow_right₀ one_le_two (by omega)
      refine roundHalfEven_le (hscaled num hden k) ?_
      rw [div_scaled, div_le_iff₀ (by positivity)]
      exact_mod_cast hhigh.le.trans hcarry
    have hlower : 2 ^ 52 ≤
        roundHalfEven (num' * Nat.pow 2 (-k').toNat) (den' * Nat.pow 2 k'.toNat) := by
      have hstart : (2 : ℚ) ^ (52 : ℤ) * 2 ^ k' ≤ 2 ^ highBit num' den' := by
        rw [← zpow_add₀ two_ne_zero]
        exact zpow_le_zpow_right₀ one_le_two (by omega)
      refine le_roundHalfEven (hscaled num' hden' k') ?_
      rw [div_scaled, le_div_iff₀ (by positivity)]
      exact_mod_cast hstart.trans hlow'
    have hpow : Nat.pow 2 52 = 4503599627370496 := rfl
    rw [hpow]
    omega

/-! ### Values -/

variable {x y x' y' : Binary64}

theorem value_nonneg (x : Binary64) : 0 ≤ x.value :=
  mul_nonneg (Nat.cast_nonneg _) (by positivity)

theorem nearest_ratio (x : Binary64) : nearest x.ratio.1 x.ratio.2 = x.magnitude := by
  by_cases hzero : x.isZero
  · have hmagnitude : x.magnitude = 0 := by simpa [isZero] using hzero
    have hratio : x.ratio.1 = 0 := by simp [ratio, significand, hmagnitude]
    rw [nearest, if_pos hratio, hmagnitude]
  · have hround := ofRatio_eq (ratio_pos x).ne' (by simpa using hzero) (value_eq_ratio x).symm
    rw [ofRatio_eq_nearest] at hround
    split at hround
    · exact congrArg magnitude (Option.some.inj hround)
    · cases hround

/-- A number is determined by its value but for the sign. -/
theorem magnitude_le_iff : x.magnitude ≤ y.magnitude ↔ x.value ≤ y.value := by
  have hmono {x y : Binary64} (h : x.value ≤ y.value) : x.magnitude ≤ y.magnitude := by
    rw [← nearest_ratio x, ← nearest_ratio y]
    refine nearest_mono (ratio_pos x).ne' (ratio_pos y).ne' ?_
    rwa [← value_eq_ratio, ← value_eq_ratio]
  refine ⟨fun h => not_lt.mp fun hlt => ?_, hmono⟩
  have heq : x.magnitude = y.magnitude := h.antisymm (hmono hlt.le)
  simp [value, significand, scale, heq] at hlt

/-- What is rounded to a number is finite together with all that is less. -/
theorem exists_ofRatio {num den num' den' : Nat} (hden : den ≠ 0) (hden' : den' ≠ 0)
    (h : (num : ℚ) / den ≤ num' / den') {negative' : Bool}
    (hy : ofRatio negative' num' den' = some y) (negative : Bool) :
    ∃ x, ofRatio negative num den = some x ∧ x.value ≤ y.value := by
  have hle := nearest_mono hden hden' h
  rw [ofRatio_eq_nearest] at hy
  split at hy
  · next hfinite =>
      cases hy
      refine ⟨⟨negative, _, hle.trans_lt hfinite⟩, ?_, magnitude_le_iff.mp hle⟩
      rw [ofRatio_eq_nearest, dif_pos (hle.trans_lt hfinite)]
  · cases hy

theorem exists_ofNat? {m n : Nat} (h : m ≤ n) (hy : ofNat? n = some y) :
    ∃ x, ofNat? m = some x ∧ x.value ≤ y.value := by
  refine exists_ofRatio one_ne_zero one_ne_zero ?_ hy false
  rw [Nat.cast_one, div_one, div_one]
  exact_mod_cast h

theorem exists_mul? (hx : x.value ≤ x'.value) (hy : y.value ≤ y'.value)
    (h : (x'.mul? y').isSome) : ∃ z, x.mul? y = some z := by
  obtain ⟨z', hz'⟩ := Option.isSome_iff_exists.mp h
  have hden (x y : Binary64) : x.ratio.2 * y.ratio.2 ≠ 0 :=
    (Nat.mul_pos (ratio_pos x) (ratio_pos y)).ne'
  have hvalue (x y : Binary64) :
      ((x.ratio.1 * y.ratio.1 : Nat) : ℚ) / (x.ratio.2 * y.ratio.2 : Nat) = x.value * y.value := by
    rw [value_eq_ratio, value_eq_ratio, Nat.cast_mul, Nat.cast_mul, div_mul_div_comm]
  have hle : x.value * y.value ≤ x'.value * y'.value :=
    mul_le_mul hx hy (value_nonneg y) (value_nonneg x')
  rw [← hvalue, ← hvalue] at hle
  obtain ⟨z, hz, -⟩ := exists_ofRatio (hden x y) (hden x' y') hle hz' _
  exact ⟨z, hz⟩

/-- A quotient by one or more is no greater than what is divided, and so it is finite. -/
theorem exists_div? (hy : 1 ≤ y.value) : ∃ z, x.div? y = some z := by
  have hpos : y.ratio.1 ≠ 0 := by
    intro hzero
    rw [value_eq_ratio, hzero, Nat.cast_zero, zero_div] at hy
    exact absurd hy (by norm_num)
  have hle : ((x.ratio.1 * y.ratio.2 : Nat) : ℚ) / (x.ratio.2 * y.ratio.1 : Nat) ≤
      x.ratio.1 / x.ratio.2 := by
    rw [Nat.cast_mul, Nat.cast_mul, ← div_div_div_eq, ← value_eq_ratio, ← value_eq_ratio]
    exact div_le_self (value_nonneg x) hy
  have hfinite : ofRatio x.negative x.ratio.1 x.ratio.2 = some x := by
    rw [ofRatio_eq_nearest, dif_pos ((nearest_ratio x).symm ▸ x.finite)]
    simp only [nearest_ratio]
  obtain ⟨z, hz, -⟩ :=
    exists_ofRatio (Nat.mul_ne_zero (ratio_pos x).ne' hpos) (ratio_pos x).ne' hle hfinite _
  exact ⟨z, hz⟩

end ContentForms.Binary64

import ContentForms.Json.Number
import ContentForms.Proofs.Nearest

/-!
Numbers computed from a significand and a power of ten. Each step rounds, and that can be too much
close to the greatest number: `17976931348623158e292` is refused, although a finite number is the
nearest to it. Nothing is refused up to halfway between the greatest number and the one before. It
is enough to look at the greatest significand within that bound for each of the greatest powers of
ten, because a smaller significand or power makes for a smaller product.
-/

namespace ContentForms

namespace Binary64

/-- A decimal is below a whole number if it is rounded to less. -/
theorem value_lt_of_magnitude_lt {d : Decimal} {x : Binary64} {negative : Bool}
    (hx : ofDecimal negative d = some x) {n : Nat} (h : x.magnitude < nearest n 1) :
    d.value < n := by
  by_contra hle
  rw [not_lt, ← value_normal] at hle
  have hpos : n ≠ 0 := by
    rintro rfl
    exact absurd h (Nat.not_lt_zero _)
  have hone : (1 : ℚ) ≤ d.normal.value := le_trans (by exact_mod_cast Nat.pos_of_ne_zero hpos) hle
  have hdigits : d.normal.digits ≠ 0 := by
    intro hzero
    rw [Decimal.value, hzero, Nat.cast_zero, zero_mul] at hone
    exact absurd hone (by norm_num)
  simp only [ofDecimal, if_neg hdigits] at hx
  split at hx
  · cases hx
  · split at hx
    · next htop =>
        have hless := (value_bounds hdigits).2.trans_le
          (zpow_le_zpow_right₀ (by norm_num : (1 : ℚ) ≤ 10) htop.le)
        have hmost : (10 : ℚ) ^ (-330 : ℤ) ≤ 1 :=
          zpow_le_one_of_nonpos₀ (by norm_num) (by norm_num)
        exact absurd (hone.trans_lt hless) (not_lt.mpr hmost)
    · rw [ofRatio_eq_nearest] at hx
      split at hx
      · cases hx
        refine absurd h (not_lt.mpr (nearest_mono one_ne_zero (Nat.pow_pos (by decide)).ne' ?_))
        rw [Nat.cast_one, div_one]
        refine hle.trans_eq ?_
        rw [Decimal.value, ← pow_toNat_div (by norm_num : (10 : ℚ) ≠ 0)]
        simp [mul_div_assoc]
      · cases hx

end Binary64

namespace Number

open Binary64

/-- Halfway between the greatest number and the one before. -/
def halfwayToGreatest : Nat :=
  (2 ^ 53 - 1) * 2 ^ 971 - 2 ^ 970

/-- The greatest significand that stays within the bound under a power of ten. -/
def mostUnder (power : Nat) : Nat :=
  min greatestSignificand (halfwayToGreatest / 10 ^ power)

theorem isSome_mul?_mostUnder : ∀ more < 21,
    ((ofNat? (mostUnder (288 + more))).bind fun x =>
      (tenPow? (288 + more)).bind x.mul?).isSome := by
  decide +kernel

theorem mostUnder_of_le {power : Nat} (h : power ≤ 288) :
    mostUnder power = greatestSignificand := by
  refine min_eq_left ((Nat.le_div_iff_mul_le (Nat.pow_pos (by decide))).mpr ?_)
  calc greatestSignificand * 10 ^ power ≤ greatestSignificand * 10 ^ 288 :=
        Nat.mul_le_mul_left _ (Nat.pow_le_pow_right (by decide) h)
    _ ≤ halfwayToGreatest := by decide +kernel

theorem exists_tenPow?_le {power power' : Nat} (h : power ≤ power') {y : Binary64}
    (hy : tenPow? power' = some y) : ∃ x, tenPow? power = some x ∧ x.value ≤ y.value :=
  exists_ofNat? (Nat.pow_le_pow_right (by decide) h) hy

theorem exists_tenPow? {power : Nat} (h : power ≤ greatestPower) :
    ∃ x, tenPow? power = some x ∧ 1 ≤ x.value := by
  obtain ⟨greatest, hgreatest⟩ : ∃ x, tenPow? greatestPower = some x :=
    Option.isSome_iff_exists.mp (by decide +kernel)
  obtain ⟨x, hx, -⟩ := exists_tenPow?_le h hgreatest
  obtain ⟨one, hnegative, hzero, hvalue⟩ := exists_value_eq one_ne_zero (by decide) false
  have hone : ofNat? 1 = some one := by
    rw [ofNat?, ← hnegative]
    exact ofRatio_eq one_ne_zero hzero (by rw [hvalue, Nat.cast_one, div_one])
  obtain ⟨y, hy, hle⟩ := exists_ofNat? (Nat.pow_pos (by decide)) hx
  cases hone.symm.trans hy
  exact ⟨x, hx, by rwa [hvalue, Nat.cast_one] at hle⟩

theorem exists_scaleDown? (times : Nat) (x : Binary64) : ∃ y, scaleDown? times x = some y := by
  induction times generalizing x with
  | zero => exact ⟨x, rfl⟩
  | succ times ih =>
      rw [scaleDown?]
      split
      · exact ⟨x, rfl⟩
      · obtain ⟨power, hpower, hvalue⟩ := exists_tenPow? le_rfl
        obtain ⟨next, hnext⟩ := exists_div? hvalue
        rw [hpower, Option.bind_eq_bind, Option.bind_some, hnext]
        exact ih next

theorem exists_mul?_tenPow? {significand power : Nat} (hpower : power ≤ greatestPower)
    (h : significand ≤ mostUnder power) :
    ∃ x y z, ofNat? significand = some x ∧ tenPow? power = some y ∧ x.mul? y = some z := by
  obtain ⟨power', hle, hmost, more, hmore, rfl⟩ : ∃ power', power ≤ power' ∧
      significand ≤ mostUnder power' ∧ ∃ more < 21, power' = 288 + more := by
    rcases Nat.le_total power 288 with hsmall | hgreat
    · refine ⟨288, hsmall, ?_, 0, by decide, rfl⟩
      rwa [mostUnder_of_le le_rfl, ← mostUnder_of_le hsmall]
    · have hbound : greatestPower = 308 := rfl
      exact ⟨power, le_rfl, h, power - 288, by omega, by omega⟩
  have hsome := isSome_mul?_mostUnder more hmore
  cases hx' : ofNat? (mostUnder (288 + more)) with
  | none =>
      rw [hx'] at hsome
      cases hsome
  | some x' =>
      cases hy' : tenPow? (288 + more) with
      | none =>
          rw [hx', hy'] at hsome
          cases hsome
      | some y' =>
          rw [hx', hy', Option.bind_some, Option.bind_some] at hsome
          obtain ⟨x, hx, hxle⟩ := exists_ofNat? hmost hx'
          obtain ⟨y, hy, hyle⟩ := exists_tenPow?_le hle hy'
          obtain ⟨z, hz⟩ := exists_mul? hxle hyle hsome
          exact ⟨x, y, z, hx, hy, hz⟩

theorem exists_ofParts? {significand : Nat} {exponent : Int}
    (hsignificand : significand ≤ greatestSignificand)
    (h : (significand : ℚ) * 10 ^ exponent < halfwayToGreatest + 1) :
    ∃ x, ofParts? significand exponent = some x := by
  cases exponent with
  | ofNat power =>
      have hwhole : significand * 10 ^ power ≤ halfwayToGreatest := by
        rw [Int.ofNat_eq_natCast, zpow_natCast] at h
        generalize halfwayToGreatest = bound at h ⊢
        exact Nat.lt_succ_iff.mp (by exact_mod_cast h)
      have hmost : significand ≤ mostUnder power :=
        le_min hsignificand ((Nat.le_div_iff_mul_le (Nat.pow_pos (by decide))).mpr hwhole)
      by_cases hpower : power ≤ greatestPower
      · obtain ⟨x, y, z, hx, hy, hz⟩ := exists_mul?_tenPow? hpower hmost
        refine ⟨z, ?_⟩
        simp only [ofParts?, hx, hy, hz, if_pos hpower, Option.bind_eq_bind, Option.bind_some]
      · -- Nothing but zero stays within the bound.
        have hzero : significand = 0 := by
          have hgreat : halfwayToGreatest < 10 ^ power :=
            lt_of_lt_of_le (by decide +kernel : halfwayToGreatest < 10 ^ (greatestPower + 1))
              (Nat.pow_le_pow_right (by decide) (not_le.mp hpower))
          have hnone : mostUnder power = 0 := by
            rw [mostUnder, Nat.div_eq_of_lt hgreat, Nat.min_zero]
          exact Nat.le_zero.mp (hnone ▸ hmost)
        subst hzero
        refine ⟨.zero false, ?_⟩
        simp only [ofParts?, if_neg hpower]
        rfl
  | negSucc power =>
      obtain ⟨greatest, hgreatest⟩ : ∃ x, ofNat? greatestSignificand = some x :=
        Option.isSome_iff_exists.mp (by decide +kernel)
      obtain ⟨x, hx, -⟩ := exists_ofNat? hsignificand hgreatest
      obtain ⟨y, hy⟩ := exists_scaleDown? (power / greatestPower) x
      have hrest : power % greatestPower + 1 ≤ greatestPower := Nat.mod_lt power (by decide)
      obtain ⟨divisor, hdivisor, hvalue⟩ := exists_tenPow? hrest
      obtain ⟨z, hz⟩ := exists_div? (x := y) hvalue
      refine ⟨z, ?_⟩
      simp only [ofParts?, hx, hy, hdivisor, hz, Option.bind_eq_bind, Option.bind_some]

/-! ### Significands -/

structure Taken (significand : Nat) (cs : List Char) (result : Nat × List Char) : Prop where
  fits : result.1 ≤ greatestSignificand
  shorter : result.2.length ≤ cs.length
  unchanged : result.2.length = cs.length → result.1 = significand
  below : result.1 * 10 ^ result.2.length ≤ significand * 10 ^ cs.length + Text.ofDigits 10 cs
  /-- Digits are left only where the first of them would not fit. -/
  full : 0 < result.2.length → greatestSignificand * 10 ^ (result.2.length - 1) <
    significand * 10 ^ cs.length + Text.ofDigits 10 cs

theorem taken_takeDigits {significand : Nat} (h : significand ≤ greatestSignificand)
    (cs : List Char) : Taken significand cs (takeDigits significand cs) := by
  induction cs generalizing significand with
  | nil =>
      rw [takeDigits]
      exact ⟨h, le_rfl, fun _ => rfl, by simp, fun hpos => absurd hpos (by simp)⟩
  | cons c rest ih =>
      have hvalue : significand * 10 ^ (c :: rest).length + Text.ofDigits 10 (c :: rest) =
          (significand * 10 + Text.digitValue c) * 10 ^ rest.length + Text.ofDigits 10 rest := by
        rw [Text.ofDigits_cons, List.length_cons, pow_succ]
        ring
      rw [takeDigits]
      split
      · next hgreat =>
          refine ⟨h, le_rfl, fun _ => rfl, Nat.le_add_right _ _, fun _ => ?_⟩
          rw [hvalue, List.length_cons, Nat.add_sub_cancel]
          exact lt_of_lt_of_le (Nat.mul_lt_mul_of_pos_right hgreat (Nat.pow_pos (by decide)))
            (Nat.le_add_right _ _)
      · next hfits =>
          obtain ⟨fits, shorter, -, below, full⟩ := ih (not_lt.mp hfits)
          refine ⟨fits, shorter.trans (Nat.le_succ _), fun hlength => ?_, hvalue ▸ below,
            hvalue ▸ full⟩
          rw [hlength, List.length_cons] at shorter
          exact absurd shorter (Nat.not_succ_le_self _)

/-- What is read of the digits before and after a point is not above what they say. Where a digit
before the point did not fit, one after it may have fit, at a place that is not its own; but there
even the greatest significand is below the digits before the point. -/
theorem significandOf_le (whole fraction : List Char) :
    (significandOf whole fraction).1 ≤ greatestSignificand ∧
      ((significandOf whole fraction).1 : ℚ) * 10 ^ (significandOf whole fraction).2 ≤
        Text.ofDigits 10 (whole ++ fraction) * 10 ^ (-(fraction.length : ℤ)) := by
  obtain ⟨first, hfirst⟩ : ∃ first, takeDigits 0 whole = first := ⟨_, rfl⟩
  obtain ⟨second, hsecond⟩ : ∃ second, takeDigits first.1 fraction = second := ⟨_, rfl⟩
  have htaken : Taken 0 whole first := hfirst ▸ taken_takeDigits (Nat.zero_le _) whole
  have htaken' : Taken first.1 fraction second := hsecond ▸ taken_takeDigits htaken.fits fraction
  have hbelow := htaken.below
  have hfull := htaken.full
  rw [Nat.zero_mul, Nat.zero_add] at hbelow hfull
  have hle : second.1 * 10 ^ (first.2.length + second.2.length) ≤
      Text.ofDigits 10 (whole ++ fraction) := by
    rw [Text.ofDigits_append]
    rcases Nat.eq_zero_or_pos first.2.length with hnone | hsome
    · rw [hnone, pow_zero, mul_one] at hbelow
      rw [hnone, Nat.zero_add]
      exact htaken'.below.trans (Nat.add_le_add_right (Nat.mul_le_mul_right _ hbelow) _)
    · refine le_trans ?_ (Nat.le_add_right _ _)
      rcases htaken'.shorter.eq_or_lt with hnothing | hless
      · rw [htaken'.unchanged hnothing, hnothing, pow_add, ← mul_assoc]
        exact Nat.mul_le_mul_right _ hbelow
      · calc second.1 * 10 ^ (first.2.length + second.2.length)
            ≤ greatestSignificand * 10 ^ (first.2.length - 1 + fraction.length) :=
              Nat.mul_le_mul htaken'.fits (Nat.pow_le_pow_right (by decide) (by omega))
          _ = greatestSignificand * 10 ^ (first.2.length - 1) * 10 ^ fraction.length := by
              rw [pow_add, mul_assoc]
          _ ≤ Text.ofDigits 10 whole * 10 ^ fraction.length :=
              Nat.mul_le_mul_right _ (hfull hsome).le
  have hplace : (first.2.length : ℤ) - (fraction.length - second.2.length : Nat) =
      ((first.2.length + second.2.length : Nat) : ℤ) + -(fraction.length : ℤ) := by
    have hshorter := htaken'.shorter
    omega
  simp only [significandOf, hfirst, hsecond]
  refine ⟨htaken'.fits, ?_⟩
  rw [hplace, zpow_add₀ (by norm_num), zpow_natCast, ← mul_assoc]
  exact mul_le_mul_of_nonneg_right (by exact_mod_cast hle) (by positivity)

end Number

end ContentForms

import ContentForms.Json.Token
import ContentForms.Proofs.Scaling

/-!
Numbers in JSON read back. A float is written with a point or an exponent, whichever of five shapes
its layout has: whole digits without a superfluous zero, and a tail behind them. `Spelled` says what
is common to them, which is all that reading goes by. What a layout spells is the shortest decimal
but for zeros at its end, and the number is the nearest to it. So some number is read from every
text that is written: an integer is read as itself, and a float as a number close by.
-/

namespace ContentForms

namespace Number

open Binary64 Text

theorem isWordChar_of_isDigit {c : Char} (h : c.isDigit) : Json.Token.isWordChar c := by
  simp [Json.Token.isWordChar, Char.isAlphanum, h]

/-! ### Tails -/

theorem takeWhile_digits {digits rest : List Char} (hdigits : ∀ c ∈ digits, c.isDigit)
    (hrest : ∀ c ∈ rest.head?, c.isDigit = false) :
    (digits ++ rest).takeWhile Char.isDigit = digits := by
  rw [List.takeWhile_append_of_pos hdigits]
  cases rest with
  | nil => simp
  | cons c rest => simp [hrest c rfl]

theorem dropWhile_digits {digits rest : List Char} (hdigits : ∀ c ∈ digits, c.isDigit)
    (hrest : ∀ c ∈ rest.head?, c.isDigit = false) :
    (digits ++ rest).dropWhile Char.isDigit = rest := by
  rw [List.dropWhile_append_of_pos hdigits]
  cases rest with
  | nil => simp
  | cons c rest => simp [hrest c rfl]

theorem readTail?_point {fraction : List Char} (hsome : fraction ≠ [])
    (hdigits : ∀ c ∈ fraction, c.isDigit) : readTail? ('.' :: fraction) = some (fraction, 0) := by
  have htake : (fraction ++ []).takeWhile Char.isDigit = fraction :=
    takeWhile_digits hdigits (by simp)
  have hdrop : (fraction ++ []).dropWhile Char.isDigit = [] := dropWhile_digits hdigits (by simp)
  rw [List.append_nil] at htake hdrop
  simp [readTail?, htake, hdrop, hsome]

theorem readTail?_exponent (exponent : List Char) :
    readTail? ('e' :: exponent) = (readExponent? exponent).map ([], ·) := by
  simp [readTail?]

theorem readTail?_point_exponent {fraction : List Char} (hsome : fraction ≠ [])
    (hdigits : ∀ c ∈ fraction, c.isDigit) (exponent : List Char) :
    readTail? ('.' :: (fraction ++ 'e' :: exponent)) =
      (readExponent? exponent).map (fraction, ·) := by
  have htake : (fraction ++ 'e' :: exponent).takeWhile Char.isDigit = fraction :=
    takeWhile_digits hdigits (by simp)
  have hdrop : (fraction ++ 'e' :: exponent).dropWhile Char.isDigit = 'e' :: exponent :=
    dropWhile_digits hdigits (by simp)
  simp [readTail?, htake, hdrop, hsome]

def exponentChars (form : Layout) (power : Int) : List Char :=
  (if power < 0 then ['-'] else if form.plusSign then ['+'] else []) ++ decimal power.natAbs

variable {form : Layout}

theorem readExponent?_decimal (n : Nat) : readExponent? (decimal n) = some (n : Int) := by
  have hread := readNat?_decimal n
  obtain ⟨c, rest, hcs⟩ := List.exists_cons_of_ne_nil (decimal_ne_nil n)
  have hc : c.isDigit := isDigit_of_mem_decimal (n := n) (hcs ▸ List.mem_cons_self)
  rw [hcs] at hread ⊢
  unfold readExponent?
  split
  · next hsign =>
      cases hsign
      cases hc
  · next hsign =>
      cases hsign
      cases hc
  · rw [hread]
    rfl

theorem readExponent?_exponentChars (power : Int) :
    readExponent? (exponentChars form power) = some power := by
  unfold exponentChars
  split
  · next hneg =>
      simp only [List.singleton_append, readExponent?, readNat?_decimal]
      exact congrArg some (show -(power.natAbs : Int) = power by omega)
  · next hpos =>
      have hpower : (power.natAbs : Int) = power := by omega
      split
      · simp only [List.singleton_append, readExponent?, readNat?_decimal]
        exact congrArg some hpower
      · rw [List.nil_append, readExponent?_decimal, hpower]

theorem isWordChar_of_mem_exponentChars {power : Int} {c : Char}
    (h : c ∈ exponentChars form power) : Json.Token.isWordChar c := by
  unfold exponentChars at h
  rcases List.mem_append.mp h with hsign | hdigit
  · split at hsign
    · cases List.mem_singleton.mp hsign
      decide
    · split at hsign
      · cases List.mem_singleton.mp hsign
        decide
      · cases hsign
  · exact isWordChar_of_isDigit (isDigit_of_mem_decimal hdigit)

/-! ### What a layout spells -/

/-- A text that spells a decimal as a float, without a sign. -/
inductive Spelled : List Char → Decimal → Prop
  | mk {whole tail fraction : List Char} {exponent : Int} {d : Decimal} (present : whole ≠ [])
      (digits : ∀ c ∈ whole, c.isDigit) (lean : whole.head? = some '0' → whole.length = 1)
      (stops : tail.head? = some '.' ∨ tail.head? = some 'e')
      (words : ∀ c ∈ tail, Json.Token.isWordChar c)
      (read : readTail? tail = some (fraction, exponent))
      (value : ofDigits 10 (whole ++ fraction) = d.digits)
      (place : exponent - fraction.length = d.exponent) : Spelled (whole ++ tail) d

/-- The decimal that a text spells, as it may be told from the text. -/
def spelled? (text : List Char) : Option Decimal :=
  (readTail? (text.dropWhile Char.isDigit)).map fun (fraction, exponent) =>
    ⟨ofDigits 10 (text.takeWhile Char.isDigit ++ fraction), exponent - fraction.length⟩

namespace Spelled

variable {text : List Char} {d : Decimal}

/-- The digits that a text begins with, and what is read behind them. -/
theorem parts (h : Spelled text d) :
    ¬((text.takeWhile Char.isDigit).isEmpty ||
        ((text.takeWhile Char.isDigit).head? == some '0' &&
          decide (1 < (text.takeWhile Char.isDigit).length))) ∧
      (text.dropWhile Char.isDigit).isEmpty = false ∧
      ∃ fraction exponent, readTail? (text.dropWhile Char.isDigit) = some (fraction, exponent) ∧
        ofDigits 10 (text.takeWhile Char.isDigit ++ fraction) = d.digits ∧
        exponent - fraction.length = d.exponent := by
  cases h with
  | @mk whole tail fraction exponent _ present digits lean stops words read value place =>
      have htail : ∀ c ∈ tail.head?, c.isDigit = false := by
        intro c hc
        rcases stops with h | h <;> rw [h] at hc <;> cases hc <;> rfl
      have hlean : ¬(whole.isEmpty || (whole.head? == some '0' && decide (1 < whole.length))) := by
        simp only [Bool.or_eq_true, Bool.and_eq_true, List.isEmpty_iff, beq_iff_eq,
          decide_eq_true_eq, not_or, not_and, not_lt]
        exact ⟨present, fun hzero => (lean hzero).le⟩
      have hsome : tail.isEmpty = false := by
        cases tail with
        | nil => simp at stops
        | cons c rest => rfl
      rw [takeWhile_digits digits htail, dropWhile_digits digits htail]
      exact ⟨hlean, hsome, fraction, exponent, read, value, place⟩

theorem spelled?_eq (h : Spelled text d) : spelled? text = some d := by
  obtain ⟨-, -, fraction, exponent, hread, hvalue, hplace⟩ := h.parts
  simp only [spelled?, hread, Option.map_some, hvalue, hplace]

/-- A text is read from a significand and a power of ten that are not above what it spells. -/
theorem readUnsigned? (h : Spelled text d) (negative : Bool) : ∃ significand exponent,
    Number.readUnsigned? negative text =
        (ofParts? significand exponent).map (fun x => .float { x with negative }) ∧
      significand ≤ greatestSignificand ∧ (significand : ℚ) * 10 ^ exponent ≤ d.value := by
  obtain ⟨hlean, hsome, fraction, exponent, hread, hvalue, hplace⟩ := h.parts
  obtain ⟨hfits, hle⟩ := significandOf_le (text.takeWhile Char.isDigit) fraction
  refine ⟨_, exponent + (significandOf (text.takeWhile Char.isDigit) fraction).2, ?_, hfits, ?_⟩
  · simp only [Number.readUnsigned?, if_neg hlean, hsome, Bool.false_and, Bool.false_eq_true,
      if_false, hread, Option.bind_eq_bind, Option.bind_some]
    exact Option.map_eq_bind.symm
  · rw [Decimal.value, ← hplace, ← hvalue, sub_eq_add_neg, zpow_add₀ (by norm_num),
      zpow_add₀ (by norm_num), mul_left_comm, mul_left_comm (Nat.cast _)]
    exact mul_le_mul_of_nonneg_left hle (by positivity)

theorem isWordChar (h : Spelled text d) {c : Char} (hc : c ∈ text) :
    Json.Token.isWordChar c := by
  cases h with
  | mk _ digits _ _ words _ _ _ =>
      rcases List.mem_append.mp hc with hdigit | htail
      · exact isWordChar_of_isDigit (digits c hdigit)
      · exact words c htail

theorem head (h : Spelled text d) : ∃ c rest, text = c :: rest ∧ c.isDigit := by
  cases h with
  | @mk whole tail _ _ _ present digits =>
      obtain ⟨c, rest, rfl⟩ := List.exists_cons_of_ne_nil present
      exact ⟨c, rest ++ tail, rfl, digits c List.mem_cons_self⟩

/-- What stops the digits tells a float from an integer. -/
theorem mark (h : Spelled text d) : ∃ c ∈ text, c.isDigit = false := by
  cases h with
  | @mk whole tail _ _ _ _ _ _ stops =>
      rcases stops with hpoint | hletter
      · exact ⟨'.', List.mem_append_right whole (List.mem_of_mem_head? hpoint), rfl⟩
      · exact ⟨'e', List.mem_append_right whole (List.mem_of_mem_head? hletter), rfl⟩

end Spelled

theorem spelled_point {whole fraction : List Char} (present : whole ≠ [])
    (digits : ∀ c ∈ whole, c.isDigit) (lean : whole.head? = some '0' → whole.length = 1)
    (present' : fraction ≠ []) (digits' : ∀ c ∈ fraction, c.isDigit) :
    Spelled (whole ++ '.' :: fraction)
      ⟨ofDigits 10 (whole ++ fraction), -(fraction.length : Int)⟩ := by
  refine .mk present digits lean (.inl rfl) ?_ (readTail?_point present' digits') rfl (by simp)
  exact List.forall_mem_cons.mpr ⟨by decide, fun c hc => isWordChar_of_isDigit (digits' c hc)⟩

theorem isWordChar_of_mem_exponent {power : Int} :
    ∀ c ∈ 'e' :: exponentChars form power, Json.Token.isWordChar c :=
  List.forall_mem_cons.mpr ⟨by decide, fun _ hc => isWordChar_of_mem_exponentChars hc⟩

theorem spelled_exponent {c : Char} (hc : c.isDigit) (power : Int) :
    Spelled ([c] ++ 'e' :: exponentChars form power) ⟨ofDigits 10 [c], power⟩ := by
  have hread : readTail? ('e' :: exponentChars form power) = some ([], power) := by
    rw [readTail?_exponent, readExponent?_exponentChars]
    rfl
  exact .mk (List.cons_ne_nil c []) (by simpa using hc) (fun _ => rfl) (.inr rfl)
    isWordChar_of_mem_exponent hread rfl (by simp)

theorem spelled_point_exponent {c : Char} (hc : c.isDigit) {fraction : List Char}
    (present : fraction ≠ []) (digits : ∀ c ∈ fraction, c.isDigit) (power : Int) :
    Spelled ([c] ++ '.' :: (fraction ++ 'e' :: exponentChars form power))
      ⟨ofDigits 10 ([c] ++ fraction), power - fraction.length⟩ := by
  have hread : readTail? ('.' :: (fraction ++ 'e' :: exponentChars form power)) =
      some (fraction, power) := by
    rw [readTail?_point_exponent present digits, readExponent?_exponentChars]
    rfl
  refine .mk (List.cons_ne_nil c []) (by simpa using hc) (fun _ => rfl) (.inl rfl) ?_ hread rfl rfl
  refine List.forall_mem_cons.mpr ⟨by decide, fun d hd => ?_⟩
  rcases List.mem_append.mp hd with hdigit | htail
  · exact isWordChar_of_isDigit (digits d hdigit)
  · exact isWordChar_of_mem_exponent d htail

theorem isDigit_of_mem_zeros {k : Nat} {c : Char} (h : c ∈ List.replicate k '0') : c.isDigit := by
  cases (List.mem_replicate.mp h).2
  rfl

/-- Nothing but a zero before the point. -/
theorem spelled_fraction (g k : Nat) :
    Spelled ('0' :: '.' :: (List.replicate k '0' ++ decimal g))
      ⟨g, -((k + (decimal g).length : Nat) : Int)⟩ := by
  have hdigits : ∀ c ∈ List.replicate k '0' ++ decimal g, c.isDigit :=
    List.forall_mem_append.mpr
      ⟨fun c => isDigit_of_mem_zeros, fun c => isDigit_of_mem_decimal⟩
  have hspelled := spelled_point (List.cons_ne_nil '0' []) (by simp) (fun _ => rfl)
    (List.append_ne_nil_of_right_ne_nil _ (decimal_ne_nil g)) hdigits
  have hread : ofDigits 10 (['0'] ++ (List.replicate k '0' ++ decimal g)) = g :=
    (ofDigits_zeros_append (k + 1) (decimal g)).trans (ofDigits_decimal g)
  rwa [hread, List.length_append, List.length_replicate] at hspelled

/-- Nothing but a zero behind the point. -/
theorem spelled_whole {g : Nat} (hg : g ≠ 0) (k : Nat) :
    Spelled (decimal g ++ List.replicate k '0' ++ ['.', '0']) ⟨g * 10 ^ (k + 1), -1⟩ := by
  have hdigits : ∀ c ∈ decimal g ++ List.replicate k '0', c.isDigit :=
    List.forall_mem_append.mpr
      ⟨fun c => isDigit_of_mem_decimal, fun c => isDigit_of_mem_zeros⟩
  have hhead : (decimal g ++ List.replicate k '0').head? ≠ some '0' := by
    have hlead := head?_decimal hg
    obtain ⟨c, rest, hcs⟩ := List.exists_cons_of_ne_nil (decimal_ne_nil g)
    rw [hcs] at hlead ⊢
    exact hlead
  have hspelled := spelled_point (List.append_ne_nil_of_left_ne_nil (decimal_ne_nil g) _) hdigits
    (fun hzero => absurd hzero hhead) (List.cons_ne_nil '0' []) (by simp)
  have hread : ofDigits 10 (decimal g ++ List.replicate k '0' ++ ['0']) = g * 10 ^ (k + 1) := by
    rw [List.append_assoc, ← List.replicate_succ', ofDigits_append_zeros, ofDigits_decimal]
  rwa [hread] at hspelled

theorem spelled_between {g : Nat} (hg : g ≠ 0) {k : Nat} (hpos : 0 < k)
    (hk : k < (decimal g).length) :
    Spelled ((decimal g).take k ++ '.' :: (decimal g).drop k)
      ⟨g, (k : Int) - (decimal g).length⟩ := by
  have hhead : ((decimal g).take k).head? ≠ some '0' := by
    rw [List.head?_take, if_neg (by omega)]
    exact head?_decimal hg
  have hleft : (decimal g).take k ≠ [] := by
    rw [ne_eq, List.take_eq_nil_iff]
    exact not_or.mpr ⟨by omega, decimal_ne_nil g⟩
  have hright : (decimal g).drop k ≠ [] := by
    rw [ne_eq, List.drop_eq_nil_iff]
    omega
  have hspelled := spelled_point hleft
    (fun c hc => isDigit_of_mem_decimal (List.mem_of_mem_take hc))
    (fun hzero => absurd hzero hhead) hright
    (fun c hc => isDigit_of_mem_decimal (List.mem_of_mem_drop hc))
  rw [List.take_append_drop, ofDigits_decimal, List.length_drop] at hspelled
  have hplace : -(((decimal g).length - k : Nat) : Int) = (k : Int) - (decimal g).length := by omega
  rwa [hplace] at hspelled

/-- The text of a decimal other than zero spells it, with or without zeros at its end. -/
theorem spelled_layOut (form : Layout) {g : Nat} (hg : g ≠ 0) (e : Int) :
    ∃ d, Spelled (layOut form (decimal g) ((decimal g).length + e)) d ∧
      d.normal = Decimal.normal ⟨g, e⟩ := by
  generalize hpoint : ((decimal g).length : Int) + e = point
  unfold layOut
  split
  · split
    · refine ⟨_, spelled_fraction g _, ?_⟩
      congr 2
      omega
    · split
      · refine ⟨_, spelled_whole hg _, ?_⟩
        rw [normal_mul_pow]
        congr 2
        push_cast
        omega
      · refine ⟨_, @spelled_between g hg point.toNat (by omega) (by omega), ?_⟩
        congr 2
        omega
  · have hvalue := ofDigits_decimal g
    have hdigits : ∀ c ∈ decimal g, c.isDigit := fun c => isDigit_of_mem_decimal
    cases hcs : decimal g with
    | nil => exact absurd hcs (decimal_ne_nil g)
    | cons c rest =>
        rw [hcs] at hvalue hpoint hdigits
        obtain ⟨hc, hrest⟩ := List.forall_mem_cons.mp hdigits
        cases rest with
        | nil =>
            refine ⟨_, spelled_exponent hc (point - 1), ?_⟩
            rw [hvalue]
            congr 2
            simp at hpoint
            omega
        | cons d more =>
            refine ⟨_, spelled_point_exponent hc (List.cons_ne_nil d more) hrest (point - 1), ?_⟩
            rw [List.singleton_append, hvalue]
            congr 2
            simp at hpoint ⊢
            omega

/-! ### Numbers -/

/-- A number that fits into sixty-four bits, if it is an integer. -/
def Fits : Number → Prop
  | .int value => fits value
  | .float _ => True

theorem read?_signed (negative : Bool) {text : List Char}
    (h : ∃ c rest, text = c :: rest ∧ c.isDigit) :
    read? ((if negative then ['-'] else []) ++ text) = readUnsigned? negative text := by
  cases negative with
  | true => rfl
  | false =>
      obtain ⟨c, rest, rfl, hc⟩ := h
      have hne : c ≠ '-' := by
        rintro rfl
        revert hc
        decide
      simp [read?, hne]

theorem readUnsigned?_decimal {negative : Bool} {n : Nat} (hzero : negative → n ≠ 0)
    (hfits : fits (if negative then -(n : Int) else n)) :
    readUnsigned? negative (decimal n) = some (.int (if negative then -(n : Int) else n)) := by
  have hdigits : ∀ c ∈ decimal n, c.isDigit := fun c => isDigit_of_mem_decimal
  have htake : (decimal n ++ []).takeWhile Char.isDigit = decimal n :=
    takeWhile_digits hdigits (by simp)
  have hdrop : (decimal n ++ []).dropWhile Char.isDigit = [] := dropWhile_digits hdigits (by simp)
  rw [List.append_nil] at htake hdrop
  have hlean : ¬((decimal n).isEmpty ||
      ((decimal n).head? == some '0' && decide (1 < (decimal n).length))) := by
    obtain rfl | hn := eq_or_ne n 0
    · decide
    · simp [decimal_ne_nil, head?_decimal hn]
  have hint : (negative && n == 0) = false := by
    cases negative with
    | true => simpa using hzero rfl
    | false => rfl
  simp [readUnsigned?, htake, hdrop, hlean, ofDigits_decimal, hfits, hint]

theorem head_decimal (n : Nat) : ∃ c rest, decimal n = c :: rest ∧ c.isDigit := by
  obtain ⟨c, rest, hcs⟩ := List.exists_cons_of_ne_nil (decimal_ne_nil n)
  exact ⟨c, rest, hcs, isDigit_of_mem_decimal (hcs ▸ List.mem_cons_self)⟩

theorem eq_zero_of_isZero {x : Binary64} (h : x.isZero) : Binary64.zero x.negative = x := by
  obtain ⟨negative, magnitude, finite⟩ := x
  have hmagnitude : magnitude = 0 := by simpa [isZero] using h
  cases hmagnitude
  rfl

theorem spelled_render (form : Layout) (x : Binary64) :
    ∃ text d, x.render form = (if x.negative then ['-'] else []) ++ text ∧ Spelled text d ∧
      ofDecimal x.negative d = some x := by
  by_cases hzero : x.isZero
  · have hspelled := spelled_point (List.cons_ne_nil '0' []) (by simp) (fun _ => rfl)
      (List.cons_ne_nil '0' []) (by simp)
    refine ⟨['0', '.', '0'], _, by simp [Binary64.render, hzero], hspelled, ?_⟩
    exact congrArg some (eq_zero_of_isZero hzero)
  · have hzero : x.isZero = false := by simpa using hzero
    have hshortest := ofDecimal_shortest hzero
    have hdigits : x.shortest.normal.digits ≠ 0 := by
      intro hnone
      have hx : Binary64.zero x.negative = x := by simpa [ofDecimal, hnone] using hshortest
      rw [← hx] at hzero
      cases hzero
    obtain ⟨d, hspelled, hnormal⟩ := spelled_layOut form hdigits x.shortest.normal.exponent
    refine ⟨_, d, by simp [Binary64.render, hzero, pointed], hspelled, ?_⟩
    rw [ofDecimal_congr (hnormal.trans (normal_normal x.shortest)), hshortest]

theorem read?_render_int {i : Int} (h : fits i) : read? (render (.int i)) = some (.int i) := by
  have hsigned : (if decide (i < 0) then -(i.natAbs : Int) else i.natAbs) = i := by
    by_cases hneg : i < 0
    · rw [if_pos (decide_eq_true hneg)]
      omega
    · rw [if_neg (by simpa using hneg)]
      omega
  have hfits : fits (if decide (i < 0) then -(i.natAbs : Int) else i.natAbs) := by
    rw [hsigned]
    exact h
  have hzero : decide (i < 0) → i.natAbs ≠ 0 := by
    intro hneg
    have hlt : i < 0 := by simpa using hneg
    omega
  rw [render, decimalInt_eq, read?_signed _ (head_decimal _), readUnsigned?_decimal hzero hfits,
    hsigned]

def greatestFloat (negative : Bool) : Binary64 :=
  ⟨negative, limit - 1, by decide⟩

theorem read?_render_greatestFloat (negative : Bool) :
    read? (render (.float (greatestFloat negative))) = some (.float (greatestFloat negative)) := by
  cases negative <;> decide +kernel

theorem exists_read?_render_float (x : Binary64) :
    ∃ y, read? (render (.float x)) = some (.float y) := by
  have hgreatest : nearest (halfwayToGreatest + 1) 1 = limit - 1 := by decide +kernel
  by_cases hless : x.magnitude < limit - 1
  · obtain ⟨text, d, hrender, hspelled, hvalue⟩ := spelled_render layout x
    obtain ⟨significand, exponent, hread, hfits, hle⟩ := hspelled.readUnsigned? x.negative
    have hbound := value_lt_of_magnitude_lt hvalue (hgreatest ▸ hless)
    rw [Nat.cast_add_one] at hbound
    obtain ⟨y, hy⟩ := exists_ofParts? hfits (hle.trans_lt hbound)
    exact ⟨_, by rw [render, hrender, read?_signed _ hspelled.head, hread, hy, Option.map_some]⟩
  · obtain ⟨negative, magnitude, finite⟩ := x
    obtain rfl : magnitude = limit - 1 :=
      (Nat.le_sub_one_of_lt finite).antisymm (not_lt.mp hless)
    exact ⟨greatestFloat negative, read?_render_greatestFloat negative⟩

/-- The number that is read from what is written for a number. It is the same for an integer, and
may be a neighbour for a float. -/
def reread (n : Number) : Number :=
  (read? n.render).getD n

theorem reread_int {i : Int} (h : fits i) : reread (.int i) = .int i := by
  rw [reread, read?_render_int h, Option.getD_some]

theorem read?_render {n : Number} (h : n.Fits) : read? n.render = some n.reread := by
  cases n with
  | int i => rw [reread_int h, read?_render_int h]
  | float x =>
      obtain ⟨y, hy⟩ := exists_read?_render_float x
      rw [reread, hy, Option.getD_some]

/-- What is read need not be the nearest number. -/
example : read? "1e-23".toList ≠ (ofDecimal false ⟨1, -23⟩).map .float := by
  decide +kernel

/-! ### Words -/

theorem render_eq (n : Number) :
    ∃ (negative : Bool) (c : Char) (rest : List Char),
      n.render = (if negative then ['-'] else []) ++ c :: rest ∧ c.isDigit ∧
        ∀ d ∈ c :: rest, Json.Token.isWordChar d := by
  cases n with
  | int i =>
      obtain ⟨c, rest, hcs, hc⟩ := head_decimal i.natAbs
      refine ⟨decide (i < 0), c, rest, by rw [render, decimalInt_eq, hcs], hc, fun d hd => ?_⟩
      rw [← hcs] at hd
      exact isWordChar_of_isDigit (isDigit_of_mem_decimal hd)
  | float x =>
      obtain ⟨_, d, hrender, hspelled, -⟩ := spelled_render layout x
      obtain ⟨c, rest, rfl, hc⟩ := hspelled.head
      exact ⟨x.negative, c, rest, hrender, hc, fun d hd => hspelled.isWordChar hd⟩

end Number

end ContentForms

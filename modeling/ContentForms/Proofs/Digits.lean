import ContentForms.Text.Digits
import Mathlib.Algebra.Group.Nat.Defs
import Mathlib.Data.List.Induction
import Mathlib.Tactic.Ring

/-!
Decimal spellings. A number is spelled by the digits of its tenth part and its last digit, and
reading its digits gives the number, so no two numbers are spelled alike. Zeros behind the digits
multiply by ten, and zeros before them do nothing.
-/

namespace ContentForms.Text

theorem decimal_eq (n : Nat) :
    decimal n = (if n < 10 then [] else decimal (n / 10)) ++ [Nat.digitChar (n % 10)] := by
  rw [decimal, Nat.toDigits_eq_if (by decide)]
  split
  · next hlt => rw [Nat.mod_eq_of_lt hlt, List.nil_append]
  · rfl

theorem isDigit_of_mem_decimal {n : Nat} {c : Char} (h : c ∈ decimal n) : c.isDigit :=
  Nat.isDigit_of_mem_toDigits (by decide) (by decide) h

theorem decimal_ne_nil (n : Nat) : decimal n ≠ [] :=
  Nat.toDigits_ne_nil

theorem decimal_mul_ten {n : Nat} (hn : n ≠ 0) : decimal (n * 10) = decimal n ++ ['0'] := by
  have hmod : n * 10 % 10 = 0 := Nat.mul_mod_left n 10
  have hdiv : n * 10 / 10 = n := Nat.mul_div_cancel n (by decide)
  rw [decimal_eq, if_neg (by omega), hmod, hdiv]
  rfl

theorem head?_decimal {n : Nat} (hn : n ≠ 0) : (decimal n).head? ≠ some '0' := by
  induction n using Nat.strongRecOn with
  | ind n ih =>
      rw [decimal_eq]
      split
      · next hlt =>
          rw [Nat.mod_eq_of_lt hlt]
          simpa using hn
      · next hge =>
          have hhead := ih (n / 10) (by omega) (by omega)
          obtain ⟨c, rest, hrest⟩ := List.exists_cons_of_ne_nil (decimal_ne_nil (n / 10))
          rw [hrest] at hhead ⊢
          exact hhead

theorem decimalInt_eq (i : Int) :
    decimalInt i = (if decide (i < 0) then ['-'] else []) ++ decimal i.natAbs := by
  by_cases hneg : i < 0 <;> simp [decimalInt, hneg]

/-! ### Reading digits -/

theorem digitValue_of_isDigit {c : Char} (h : c.isDigit) :
    digitValue c = c.toNat - '0'.toNat := by
  simp [digitValue, h]

theorem digitValue_lt_of_isDigit {c : Char} (h : c.isDigit) : digitValue c < 10 := by
  rw [digitValue_of_isDigit h]
  simp only [Char.isDigit, Bool.and_eq_true, decide_eq_true_eq] at h
  have hmost : c.toNat ≤ '9'.toNat := h.2
  have hnine : '9'.toNat = 57 := rfl
  have hzero : '0'.toNat = 48 := rfl
  omega

theorem ofDigits_eq_ofDigitChars {cs : List Char} (h : ∀ c ∈ cs, c.isDigit) :
    ofDigits 10 cs = Nat.ofDigitChars 10 cs 0 := by
  unfold ofDigits Nat.ofDigitChars
  generalize 0 = value
  induction cs generalizing value with
  | nil => rfl
  | cons c rest ih =>
      obtain ⟨hc, hrest⟩ := List.forall_mem_cons.mp h
      rw [List.foldl_cons, List.foldl_cons, digitValue_of_isDigit hc, Nat.mul_comm]
      exact ih hrest _

theorem ofDigits_decimal (n : Nat) : ofDigits 10 (decimal n) = n := by
  rw [ofDigits_eq_ofDigitChars fun c => isDigit_of_mem_decimal]
  exact Nat.ofDigitChars_toDigits (by decide) (by decide)

theorem decimal_inj {m n : Nat} : decimal m = decimal n ↔ m = n := by
  refine ⟨fun h => ?_, congrArg decimal⟩
  calc m = ofDigits 10 (decimal m) := (ofDigits_decimal m).symm
    _ = ofDigits 10 (decimal n) := by rw [h]
    _ = n := ofDigits_decimal n

theorem ofDigits_append (cs ds : List Char) :
    ofDigits 10 (cs ++ ds) = ofDigits 10 cs * 10 ^ ds.length + ofDigits 10 ds := by
  induction ds using List.reverseRecOn with
  | nil => simp
  | append_singleton ds d ih =>
      rw [← List.append_assoc, ofDigits_append_singleton, ofDigits_append_singleton, ih,
        List.length_append, List.length_singleton, Nat.pow_succ]
      ring

theorem ofDigits_cons (c : Char) (cs : List Char) :
    ofDigits 10 (c :: cs) = digitValue c * 10 ^ cs.length + ofDigits 10 cs := by
  have hone : ofDigits 10 [c] = digitValue c := by simp [ofDigits]
  rw [← List.singleton_append, ofDigits_append, hone]

theorem ofDigits_zeros_append (k : Nat) (cs : List Char) :
    ofDigits 10 (List.replicate k '0' ++ cs) = ofDigits 10 cs := by
  induction k with
  | zero => rfl
  | succ k ih =>
      rw [List.replicate_succ, List.cons_append, ← ih]
      rfl

theorem ofDigits_append_zeros (cs : List Char) (k : Nat) :
    ofDigits 10 (cs ++ List.replicate k '0') = ofDigits 10 cs * 10 ^ k := by
  have hzeros : ofDigits 10 (List.replicate k '0') = 0 := by
    simpa using ofDigits_zeros_append k []
  rw [ofDigits_append, List.length_replicate, hzeros, Nat.add_zero]

theorem ofDigits_lt {cs : List Char} (h : ∀ c ∈ cs, c.isDigit) :
    ofDigits 10 cs < 10 ^ cs.length := by
  induction cs using List.reverseRecOn with
  | nil => simp
  | append_singleton cs c ih =>
      have hlast : digitValue c < 10 := digitValue_lt_of_isDigit (h c (by simp))
      have hbefore : ofDigits 10 cs < 10 ^ cs.length :=
        ih fun d hd => h d (List.mem_append_left _ hd)
      rw [ofDigits_append_singleton, List.length_append, List.length_singleton, Nat.pow_succ]
      omega

/-- The first digits are what is left when the others are divided off. -/
theorem ofDigits_take {cs : List Char} (h : ∀ c ∈ cs, c.isDigit) (n : Nat) :
    ofDigits 10 (cs.take n) = ofDigits 10 cs / 10 ^ (cs.length - n) := by
  have hdropped : ofDigits 10 (cs.drop n) < 10 ^ (cs.length - n) := by
    rw [← List.length_drop]
    exact ofDigits_lt fun c hc => h c (List.mem_of_mem_drop hc)
  have hsplit := ofDigits_append (cs.take n) (cs.drop n)
  rw [List.take_append_drop, List.length_drop] at hsplit
  rw [hsplit, Nat.mul_comm, Nat.mul_add_div (Nat.pow_pos (by decide)), Nat.div_eq_of_lt hdropped,
    Nat.add_zero]

theorem readNat?_decimal (n : Nat) : readNat? 10 (decimal n) = some n := by
  have hdigits : (decimal n).all (isDigitOf 10) := by
    rw [List.all_eq_true]
    intro c hc
    exact decide_eq_true (digitValue_lt_of_isDigit (isDigit_of_mem_decimal hc))
  simp [readNat?, hdigits, ofDigits_decimal, decimal_ne_nil]

end ContentForms.Text

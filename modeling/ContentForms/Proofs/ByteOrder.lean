import Mathlib.Data.String.Basic

/-!
The order of texts. Here two texts are compared by their characters; a sorted map or a list of file
names compares them by the bytes of their UTF-8 form. It is the same order: a greater character has
a greater first byte, or else as many bytes, which are digits to the base 64, and so the first byte
that differs is greater. Hence no character's bytes begin those of another one, and the first
character in which two texts differ decides between their bytes as well.
-/

namespace ContentForms

/-! ### Lists and arrays of bytes -/

/-- The bytes of an array from some place on come after what was collected before. -/
theorem toList_loop_eq (bytes : ByteArray) (i : Nat) (before : List UInt8) :
    ByteArray.toList.loop bytes i before = before.reverse ++ bytes.data.toList.drop i := by
  fun_induction ByteArray.toList.loop bytes i before with
  | case1 i before hi ih =>
      have hlength : i < bytes.data.toList.length := hi
      have hget : bytes.get! i = bytes.data.toList[i] := by simp [ByteArray.get!, hi]
      rw [ih, List.reverse_cons, List.append_assoc, hget, List.singleton_append,
        ← List.drop_eq_getElem_cons hlength]
  | case2 i before hi =>
      have hlength : bytes.data.toList.length ≤ i := Nat.le_of_not_lt hi
      rw [List.drop_eq_nil_of_le hlength, List.append_nil]

theorem toList_eq_data (bytes : ByteArray) : bytes.toList = bytes.data.toList := by
  rw [ByteArray.toList, toList_loop_eq]
  simp

theorem toByteArray_toList (bytes : ByteArray) : bytes.toList.toByteArray = bytes := by
  apply ByteArray.ext
  rw [toList_eq_data, List.data_toByteArray]

theorem cons_ofNat_lt_cons_ofNat {m n : Nat} (hm : m < 256) (hn : n < 256) {xs ys : List UInt8} :
    UInt8.ofNat m :: xs < UInt8.ofNat n :: ys ↔ m < n ∨ m = n ∧ xs < ys := by
  rw [List.cons_lt_cons_iff, UInt8.lt_iff_toNat_lt, ← UInt8.toNat_inj,
    UInt8.toNat_ofNat_of_lt' hm, UInt8.toNat_ofNat_of_lt' hn]

namespace Text

def bytes (s : String) : List UInt8 :=
  s.toUTF8.toList

theorem bytes_eq (s : String) : bytes s = s.toList.flatMap String.utf8EncodeChar := by
  rw [bytes, toList_eq_data, String.toUTF8_eq_toByteArray, ← String.utf8Encode_toList,
    List.utf8Encode, List.data_toByteArray]

theorem toNat_val_lt (c : Char) : c.val.toNat < 1114112 := by
  rcases c.valid with h | ⟨-, h⟩
  · exact Nat.lt_trans h (by decide)
  · exact h

theorem utf8EncodeChar_append_lt {c d : Char} (h : c < d) (xs ys : List UInt8) :
    String.utf8EncodeChar c ++ xs < String.utf8EncodeChar d ++ ys := by
  have hlt : c.val.toNat < d.val.toNat := h
  have hbound : d.val.toNat < 1114112 := toNat_val_lt d
  unfold String.utf8EncodeChar
  generalize c.val.toNat = m at hlt ⊢
  generalize d.val.toNat = n at hlt hbound ⊢
  -- The digits to the base 64, each as the last one of what is left.
  have htwo (n : Nat) : n / 4096 = n / 64 / 64 := by omega
  have hthree (n : Nat) : n / 262144 = n / 64 / 64 / 64 := by omega
  simp only [htwo, hthree]
  clear h htwo hthree
  -- By how many bytes each of them has.
  split_ifs <;>
    simp (disch := omega) only [List.cons_append, List.nil_append, cons_ofNat_lt_cons_ofNat] <;>
    omega

theorem flatMap_utf8EncodeChar_lt {cs ds : List Char} (h : cs < ds) :
    cs.flatMap String.utf8EncodeChar < ds.flatMap String.utf8EncodeChar := by
  induction cs generalizing ds with
  | nil =>
      cases ds with
      | nil => exact absurd h (List.not_lt_nil _)
      | cons d ds =>
          obtain ⟨first, rest, hencode⟩ :=
            List.exists_cons_of_ne_nil (String.utf8EncodeChar_ne_nil (c := d))
          rw [List.flatMap_nil, List.flatMap_cons, hencode]
          exact List.nil_lt_cons _ _
  | cons c cs ih =>
      cases ds with
      | nil => exact absurd h (List.not_lt_nil _)
      | cons d ds =>
          rw [List.flatMap_cons, List.flatMap_cons]
          rcases List.cons_lt_cons_iff.mp h with hlt | ⟨rfl, hlt⟩
          · exact utf8EncodeChar_append_lt hlt _ _
          · exact List.lex_lt.mp ((List.lex_lt.mpr (ih hlt)).append_left _ _)

/-- Texts are in the order of their bytes. -/
theorem bytes_lt_iff {a b : String} : bytes a < bytes b ↔ a < b := by
  have hmono {a b : String} (h : a < b) : bytes a < bytes b := by
    rw [bytes_eq, bytes_eq]
    exact flatMap_utf8EncodeChar_lt (String.lt_iff_toList_lt.mp h)
  refine ⟨fun h => ?_, hmono⟩
  rcases lt_trichotomy a b with hlt | rfl | hgt
  · exact hlt
  · exact absurd h (List.lt_irrefl _)
  · exact absurd (hmono hgt) (List.lt_asymm h)

end Text

end ContentForms

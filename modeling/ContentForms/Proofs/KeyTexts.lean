import ContentForms.Proofs.Expansion
import ContentForms.Proofs.Numerals
import Mathlib.Data.List.Pairwise

/-!
Keys of YAML mappings as texts. A key that is a number or a truth value becomes its spelling, and no
two of these have one spelling: what stands behind the sign of a number tells whether it is an
integer, a float or one of the words, and reads back as that number. So keys that are not equal can
have one text in one way only: one of them is a text, and spells the other.
-/

namespace ContentForms.Yaml

open ContentForms.Number (Spelled spelled? spelled_render head_decimal)

/-! ### Texts of numbers -/

namespace Number

/-- A number and its text but for the sign. -/
inductive Unsigned : Number → (negative : Bool) → List Char → Prop
  | int (i : Int) : Unsigned (.int i) (i < 0) (Text.decimal i.natAbs)
  | float {x : Binary64} {body : List Char} {d : Binary64.Decimal} (spelled : Spelled body d)
      (value : Binary64.ofDecimal x.negative d = some x) : Unsigned (.float x) x.negative body
  | infinity (negative : Bool) : Unsigned (.infinity negative) negative ".inf".toList
  | notANumber : Unsigned .notANumber false ".nan".toList

theorem text_eq_signed (n : Number) :
    ∃ negative body, n.text.toList = (if negative then ['-'] else []) ++ body ∧
      Unsigned n negative body := by
  cases n with
  | int i => exact ⟨_, _, by rw [text, String.toList_ofList, Text.decimalInt_eq], .int i⟩
  | float x =>
      obtain ⟨body, d, hrender, hspelled, hvalue⟩ := spelled_render layout x
      exact ⟨_, _, by rw [text, String.toList_ofList, hrender], .float hspelled hvalue⟩
  | infinity negative =>
      refine ⟨_, _, ?_, .infinity negative⟩
      cases negative <;> rfl
  | notANumber => exact ⟨_, _, rfl, .notANumber⟩

def ofUnsigned (negative : Bool) (body : List Char) : Number :=
  if body = ".inf".toList then .infinity negative
  else if body.all Char.isDigit then
    .int (if negative then -(Text.ofDigits 10 body : Int) else Text.ofDigits 10 body)
  else
    match (spelled? body).bind (Binary64.ofDecimal negative) with
    | some x => .float x
    | none => .notANumber

namespace Unsigned

variable {n : Number} {negative : Bool} {body : List Char}

theorem head (h : Unsigned n negative body) :
    ∃ c rest, body = c :: rest ∧ (c.isDigit ∨ c = '.') := by
  cases h with
  | int i =>
      obtain ⟨c, rest, hcs, hc⟩ := head_decimal i.natAbs
      exact ⟨c, rest, hcs, .inl hc⟩
  | float spelled =>
      obtain ⟨c, rest, hcs, hc⟩ := spelled.head
      exact ⟨c, rest, hcs, .inl hc⟩
  | infinity | notANumber => exact ⟨_, _, rfl, .inr rfl⟩

theorem ne_inf_of_head {c : Char} {rest : List Char} (h : body = c :: rest) (hc : c.isDigit) :
    body ≠ ".inf".toList := by
  rintro rfl
  cases h
  cases hc

theorem ofUnsigned_eq (h : Unsigned n negative body) : ofUnsigned negative body = n := by
  cases h with
  | int i =>
      obtain ⟨c, rest, hcs, hc⟩ := head_decimal i.natAbs
      have hdigits : (Text.decimal i.natAbs).all Char.isDigit :=
        List.all_eq_true.mpr fun c => Text.isDigit_of_mem_decimal
      rw [ofUnsigned, if_neg (ne_inf_of_head hcs hc), if_pos hdigits, Text.ofDigits_decimal]
      congr 1
      by_cases hneg : i < 0
      · rw [if_pos (decide_eq_true hneg)]
        omega
      · rw [if_neg (by simpa using hneg)]
        omega
  | float spelled value =>
      obtain ⟨c, rest, hcs, hc⟩ := spelled.head
      have hmark : ¬body.all Char.isDigit := by
        obtain ⟨c, hmem, hc⟩ := spelled.mark
        intro hall
        rw [List.all_eq_true.mp hall c hmem] at hc
        cases hc
      rw [ofUnsigned, if_neg (ne_inf_of_head hcs hc), if_neg hmark, spelled.spelled?_eq,
        Option.bind_some, value]
  | infinity => rfl
  | notANumber => rfl

/-- A sign is not taken for what follows it. -/
theorem sign_unique {negative' : Bool} {n' : Number} {body' : List Char}
    (h : Unsigned n negative body) (h' : Unsigned n' negative' body')
    (heq : (if negative then ['-'] else []) ++ body = (if negative' then ['-'] else []) ++ body') :
    negative = negative' ∧ body = body' := by
  have hsign {n : Number} {negative : Bool} {rest : List Char}
      (h : Unsigned n negative ('-' :: rest)) : False := by
    obtain ⟨c, rest, hcs, hc⟩ := h.head
    cases hcs
    rcases hc with hc | hc <;> cases hc
  cases negative <;> cases negative'
  · exact ⟨rfl, heq⟩
  · cases heq
    exact (hsign h).elim
  · cases heq
    exact (hsign h').elim
  · exact ⟨rfl, (List.cons.inj heq).2⟩

end Unsigned

theorem text_injective : Function.Injective text := by
  intro a b h
  obtain ⟨negative, body, ha, hbody⟩ := a.text_eq_signed
  obtain ⟨negative', body', hb, hbody'⟩ := b.text_eq_signed
  rw [h, hb] at ha
  obtain ⟨rfl, rfl⟩ := hbody.sign_unique hbody' ha.symm
  rw [← hbody.ofUnsigned_eq, ← hbody'.ofUnsigned_eq]

theorem text_ne_word (n : Number) {word : String} {c : Char} {rest : List Char}
    (hword : word.toList = c :: rest) (hc : c.isDigit = false ∧ c ≠ '.' ∧ c ≠ '-') :
    n.text ≠ word := by
  rintro rfl
  obtain ⟨negative, body, htext, hbody⟩ := n.text_eq_signed
  obtain ⟨d, more, rfl, hd⟩ := hbody.head
  rw [htext] at hword
  obtain ⟨hdigit, hpoint, hminus⟩ := hc
  cases negative
  · cases hword
    rcases hd with hd | hd
    · rw [hdigit] at hd
      cases hd
    · exact hpoint hd
  · cases hword
    exact hminus rfl

theorem text_ne_bool (n : Number) (b : Bool) : n.text ≠ if b then "true" else "false" := by
  cases b with
  | false => exact n.text_ne_word rfl (by decide)
  | true => exact n.text_ne_word rfl (by decide)

end Number

/-! ### Texts of keys -/

namespace Value

theorem keyText_cases {key : Value} {text : String} (h : key.keyText = .ok text) :
    key = .str text ∨ (∃ n, key = .num n ∧ n.text = text) ∨
      ∃ b, key = .bool b ∧ (if b then "true" else "false") = text := by
  cases key with
  | str s =>
      cases h
      exact .inl rfl
  | num n =>
      cases h
      exact .inr (.inl ⟨n, rfl, rfl⟩)
  | bool b =>
      cases h
      exact .inr (.inr ⟨b, rfl, rfl⟩)
  | null | sequence | mapping | tagged => cases h

theorem same_self_of_keyText {key : Value} {text : String} (h : key.keyText = .ok text) :
    key.same key = true := by
  rcases keyText_cases h with rfl | ⟨n, rfl, -⟩ | ⟨b, rfl, -⟩
  · simp [same]
  · cases n <;> simp [same, Number.same]
  · simp [same]

/-- Two keys with one text are one key, unless just one of them is the text itself. -/
theorem eq_of_keyText {key key' : Value} {text : String} (h : key.keyText = .ok text)
    (h' : key'.keyText = .ok text) (hstr : key = .str text ↔ key' = .str text) : key = key' := by
  rcases keyText_cases h with rfl | ⟨n, rfl, hn⟩ | ⟨b, rfl, hb⟩
  · exact (hstr.mp rfl).symm
  · rcases keyText_cases h' with rfl | ⟨n', rfl, hn'⟩ | ⟨b', rfl, hb'⟩
    · exact hstr.mpr rfl
    · rw [Number.text_injective (hn.trans hn'.symm)]
    · exact absurd (hn.trans hb'.symm) (n.text_ne_bool b')
  · rcases keyText_cases h' with rfl | ⟨n', rfl, hn'⟩ | ⟨b', rfl, hb'⟩
    · exact hstr.mpr rfl
    · exact absurd (hn'.trans hb.symm) (n'.text_ne_bool b)
    · have hbools : b = b' := by
        have hwords := hb.trans hb'.symm
        revert hwords
        cases b <;> cases b' <;> decide
      rw [hbools]

/-- A key that is a text stands in the mapping beside a number or a truth value that is spelled
like it. -/
def Confuses (entries : List (Value × Value)) : Prop :=
  ∃ text, (∃ entry ∈ entries, entry.1 = .str text) ∧
    ∃ entry ∈ entries, entry.1 ≠ .str text ∧ entry.1.keyText = .ok text

def NamesApart (entries : List (Value × Value)) : Prop :=
  entries.Pairwise fun entry later => entry.1.keyText ≠ later.1.keyText

/-- Of keys that have texts and are not equal, this is all that can make two texts the same. -/
theorem namesApart_iff {entries : List (Value × Value)} (hkeys : KeysApart entries)
    (htexts : ∀ entry ∈ entries, ∃ text, entry.1.keyText = .ok text) :
    NamesApart entries ↔ ¬Confuses entries := by
  constructor
  · rintro hapart ⟨text, ⟨entry, hentry, hstr⟩, ⟨other, hother, hne, htext⟩⟩
    have hdistinct : entry ≠ other := fun heq => hne (heq ▸ hstr)
    have hsymm : Std.Symm fun entry later : Value × Value => entry.1.keyText ≠ later.1.keyText :=
      ⟨fun _ _ h => h.symm⟩
    refine hapart.forall hentry hother hdistinct ?_
    rw [hstr, htext]
    rfl
  · intro hclear
    refine hkeys.imp_of_mem fun {entry later} hentry hlater hnew heq => ?_
    obtain ⟨text, htext⟩ := htexts entry hentry
    have htext' : later.1.keyText = .ok text := heq ▸ htext
    have hstr : entry.1 = .str text ↔ later.1 = .str text := by
      constructor
      · intro hentryText
        by_contra hlaterText
        exact hclear ⟨text, ⟨entry, hentry, hentryText⟩, ⟨later, hlater, hlaterText, htext'⟩⟩
      · intro hlaterText
        by_contra hentryText
        exact hclear ⟨text, ⟨later, hlater, hlaterText⟩, ⟨entry, hentry, hentryText, htext⟩⟩
    rw [eq_of_keyText htext htext' hstr, same_self_of_keyText htext'] at hnew
    cases hnew

end Value

end ContentForms.Yaml

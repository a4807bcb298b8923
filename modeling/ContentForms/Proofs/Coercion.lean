import ContentForms.Proofs.Locations
import ContentForms.Proofs.Numerals
import ContentForms.Proofs.WholeNumbers

/-!
Integers that are written as texts. Where a number is asked for, a text of digits with or without a
sign gives way to the integer that it denotes, up to `2 ^ 53` on either side of zero. The bound is
tested after rounding, and that is one too late: the next integer is rounded to `2 ^ 53`, passes the
test, and is stored as that. From there on the text gives way to a float.
-/

namespace ContentForms

/-- A text of an integer: an optional sign and at least one decimal digit. -/
inductive Text.SpellsInt : List Char → Int → Prop
  | plain {digits : List Char} (some : digits ≠ []) (all : ∀ c ∈ digits, c.isDigit) :
      SpellsInt digits (ofDigits 10 digits)
  | plus {digits : List Char} (some : digits ≠ []) (all : ∀ c ∈ digits, c.isDigit) :
      SpellsInt ('+' :: digits) (ofDigits 10 digits)
  | minus {digits : List Char} (some : digits ≠ []) (all : ∀ c ∈ digits, c.isDigit) :
      SpellsInt ('-' :: digits) (-(ofDigits 10 digits : Int))

namespace Binary64

theorem readMagnitude?_digits {digits : List Char} (hsome : digits ≠ [])
    (hall : ∀ c ∈ digits, c.isDigit) :
    readMagnitude? digits = some ⟨Text.ofDigits 10 digits, 0⟩ := by
  have htake : (digits ++ []).takeWhile Char.isDigit = digits :=
    Number.takeWhile_digits hall (by simp)
  have hdrop : (digits ++ []).dropWhile Char.isDigit = [] :=
    Number.dropWhile_digits hall (by simp)
  rw [List.append_nil] at htake hdrop
  simp [readMagnitude?, cutDigits, htake, hdrop, hsome]

theorem readLiteral?_of_spellsInt {cs : List Char} {i : Int} (h : Text.SpellsInt cs i) :
    ∃ (negative : Bool) (n : Nat), i = (if negative then -(n : Int) else n) ∧
      readLiteral? cs = ofDecimal negative ⟨n, 0⟩ := by
  cases h with
  | plain hsome hall =>
      refine ⟨false, _, rfl, ?_⟩
      -- The first character is a digit and therefore no sign.
      unfold readLiteral?
      split
      · exact absurd (hall '-' List.mem_cons_self) (by decide)
      · exact absurd (hall '+' List.mem_cons_self) (by decide)
      · rw [readMagnitude?_digits hsome hall, Option.bind_some]
  | plus hsome hall =>
      refine ⟨false, _, rfl, ?_⟩
      rw [readLiteral?, readMagnitude?_digits hsome hall, Option.bind_some]
  | minus hsome hall =>
      refine ⟨true, _, rfl, ?_⟩
      rw [readLiteral?, readMagnitude?_digits hsome hall, Option.bind_some]

end Binary64

namespace Validation

open Binary64

/-- A text stands for an integer if it is read as one that is not too large. -/
theorem coerceNumber?_eq_int_iff {s : String} {j : Int} :
    coerceNumber? s = some (.int j) ↔ ∃ x, readLiteral? (Text.trimChars s.toList) = some x ∧
      x.toInt? = some j ∧ j.natAbs ≤ 2 ^ 53 := by
  have hexact : greatestExact.natAbs = 2 ^ 53 := rfl
  unfold coerceNumber?
  cases readLiteral? (Text.trimChars s.toList) with
  | none => simp
  | some x =>
      simp only [Option.bind_eq_bind, Option.bind_some, hexact, Option.some.injEq, exists_eq_left']
      cases x.toInt? with
      | none => simp
      | some i =>
          dsimp only
          split
          · next hsmall =>
              simp only [Option.pure_def, Option.some.injEq, Number.int.injEq]
              exact ⟨fun heq => ⟨heq, heq ▸ hsmall⟩, And.left⟩
          · next hlarge =>
              simp only [Option.pure_def, Option.some.injEq, reduceCtorEq, false_iff, not_and]
              rintro rfl
              exact hlarge

/-- The text of an integer stands for that integer up to `2 ^ 53`, the next one stands for
`2 ^ 53` too, and no other stands for an integer. -/
theorem coerceNumber?_of_spellsInt {s : String} {i : Int}
    (h : Text.SpellsInt (Text.trimChars s.toList) i) (j : Int) :
    coerceNumber? s = some (.int j) ↔
      i.natAbs ≤ 2 ^ 53 ∧ j = i ∨ i.natAbs = 2 ^ 53 + 1 ∧ j = i.sign * 2 ^ 53 := by
  obtain ⟨negative, n, hi, hread⟩ := readLiteral?_of_spellsInt h
  have habs : i.natAbs = n := by
    rw [hi]
    split <;> simp
  rw [coerceNumber?_eq_int_iff, hread, habs]
  rcases Nat.lt_trichotomy n (2 ^ 53 + 1) with hsmall | rfl | hlarge
  · obtain ⟨x, hx, rfl, hvalue⟩ := ofDecimal_whole (Nat.le_of_lt_succ hsmall) negative
    rw [hx]
    simp only [Option.some.injEq, exists_eq_left', toInt?_of_value hvalue, ← hi]
    omega
  · obtain ⟨x, hx, rfl, hvalue⟩ := ofDecimal_whole (le_refl (2 ^ 53)) negative
    have hsign : i.sign * 2 ^ 53 =
        if x.negative then -((2 ^ 53 : Nat) : Int) else (2 ^ 53 : Nat) := by
      rw [hi]
      split <;> rfl
    rw [ofDecimal_halfway, hx]
    simp only [Option.some.injEq, exists_eq_left', toInt?_of_value hvalue, ← hsign]
    constructor
    · rintro ⟨rfl, -⟩
      exact .inr ⟨trivial, rfl⟩
    · rintro (⟨habsurd, -⟩ | ⟨-, rfl⟩)
      · omega
      · refine ⟨rfl, ?_⟩
        rw [hsign]
        split <;> decide
  · constructor
    · rintro ⟨x, hx, hint, hbound⟩
      have hgreater := lt_value_of_ofDecimal hlarge hx
      rw [← natAbs_of_toInt? hint] at hgreater
      have hgreater : 2 ^ 53 < j.natAbs := by exact_mod_cast hgreater
      omega
    · omega

end Validation

namespace SchemaDocument

/-- Wherever an accepted document has the text of an integer in place of a number, that integer is
stored if it is at most `2 ^ 53` in magnitude. Of the two that come next `2 ^ 53` is stored, with
their sign, and of no other an integer. -/
theorem integer_texts_coerced {schema : SchemaDocument} (hkeyed : schema.Keyed)
    {document value : Json} (haccepted : schema.compile.validate document = .accepted value)
    {location : Location} {label s : String}
    (hplace : schema.compile.root.Reaches (some document) location (.number label) (some (.str s)))
    {i : Int} (hspelled : Text.SpellsInt (Text.trimChars s.toList) i) (j : Int) :
    value.valueAt? location = some (.num (.int j)) ↔
      i.natAbs ≤ 2 ^ 53 ∧ j = i ∨ i.natAbs = 2 ^ 53 + 1 ∧ j = i.sign * 2 ^ 53 := by
  have hrule := wellFormed_root hkeyed
  have hstored := (CompiledSchema.normalized_of_accepted hrule haccepted).valueAt? hrule hplace
  rw [Option.bind_some] at hstored
  rw [← Validation.coerceNumber?_of_spellsInt hspelled]
  generalize value.valueAt? location = found at hstored
  cases hstored with
  | @numeral _ _ n coerced => simp [coerced]
  | missingObject isObject => cases isObject

def halfwayPrice : Json :=
  .obj [("prices", .arr [.obj [("amount", .str "9007199254740993")]]),
    ("seo", .obj [("title", .str "Hola")])]

/-- It is stored as another integer. -/
theorem halfway_text_is_rounded :
    Text.SpellsInt (Text.trimChars "9007199254740993".toList) 9007199254740993 ∧
      priceSchema.compile.validate halfwayPrice = .accepted (.obj
        [("prices", .arr [.obj [("amount", .num (.int 9007199254740992)), ("tags", .arr [])]]),
          ("seo", .obj [("title", .str "Hola")])]) :=
  ⟨.plain (by decide) (List.all_eq_true.mp (by decide)), by decide +kernel⟩

/-- The amount ` 12 ` of a price is stored as the integer that it denotes, and no other. -/
theorem integer_texts_coerced_prices :
    priceSchema.Keyed ∧ priceSchema.compile.validate priceDocument = .accepted storedPrices ∧
      priceSchema.compile.root.Reaches (some priceDocument)
        [.key "prices", .index 0, .key "amount"] (.number "Importe") (some (.str " 12 ")) ∧
      Text.SpellsInt (Text.trimChars " 12 ".toList) 12 ∧
      ∀ j, storedPrices.valueAt? [.key "prices", .index 0, .key "amount"] =
        some (.num (.int j)) ↔ j = 12 := by
  have hplace : priceSchema.compile.root.Reaches (some priceDocument)
      [.key "prices", .index 0, .key "amount"] (.number "Importe") (some (.str " 12 ")) :=
    .member List.mem_cons_self (.item "Precios" rfl (.member List.mem_cons_self (.here _ _)))
  have hspelled : Text.SpellsInt (Text.trimChars " 12 ".toList) 12 :=
    .plain (by decide) (List.all_eq_true.mp (by decide))
  refine ⟨keyed_priceSchema, accepted_priceDocument, hplace, hspelled, fun j => ?_⟩
  rw [integer_texts_coerced keyed_priceSchema accepted_priceDocument hplace hspelled]
  omega

end SchemaDocument

end ContentForms

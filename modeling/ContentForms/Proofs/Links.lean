import ContentForms.Link
import ContentForms.Proofs.Places
import Mathlib.Data.List.TakeWhile

/-!
Links and the schemes they can have. A link is trimmed before it is looked at, and the parser of
URLs strips the text once more, by other rules: trimming takes every blank of Unicode off the ends,
the parser takes controls and spaces off the ends, and tabs and line breaks out of the middle. What
is between the two could hide a scheme from the one that the other sees. It does not: a scheme is
ASCII up to its colon, so if the untrimmed text has one then no blank beyond ASCII stands before it,
and nothing that either takes off the end reaches back to the colon.
-/

namespace ContentForms

/-- What trimming leaves at the front ends with characters of the class. -/
theorem Text.dropWhile_eq_trimBy_append (p : Char → Bool) (cs : List Char) :
    ∃ ending, cs.dropWhile p = trimBy p cs ++ ending ∧ ∀ c ∈ ending, p c := by
  refine ⟨((cs.dropWhile p).reverse.takeWhile p).reverse, ?_, fun c hmem => ?_⟩
  · rw [trimBy, ← List.reverse_append, List.takeWhile_append_dropWhile, List.reverse_reverse]
  · exact List.mem_takeWhile_imp (List.mem_reverse.mp hmem)

theorem Text.isAlpha_of_isBlank {c : Char} (hblank : isBlank c) : c.isAlpha = false := by
  refine Bool.eq_false_iff.mpr fun hletter => ?_
  have halphanum : c.isAlphanum := by
    show (c.isAlpha || c.isDigit) = true
    rw [hletter, Bool.true_or]
  have hrange := isAlphanum_iff.mp halphanum
  change 65 ≤ c.toNat ∧ c.toNat ≤ 90 ∨ 97 ≤ c.toNat ∧ c.toNat ≤ 122 ∨
    48 ≤ c.toNat ∧ c.toNat ≤ 57 at hrange
  simp only [isBlank, Bool.or_eq_true, Bool.and_eq_true, decide_eq_true_eq, beq_iff_eq] at hblank
  omega

namespace Url

/-! ### The scheme that a text spells -/

/-- The scheme that stands before the first colon, if what stands there is one. -/
def leadingScheme? (cs : List Char) : Option (List Char) :=
  (cutScheme? cs).map Prod.fst

/-- Controls and the space, which do not count around a URL. -/
def isOuter (c : Char) : Bool :=
  c.toNat ≤ 0x20

def isKept (c : Char) : Bool :=
  !(c = '\t' || c = '\n' || c = '\r')

/-- The scheme that a text spells, whether or not a URL follows. -/
def spelledScheme? (cs : List Char) : Option (List Char) :=
  leadingScheme? ((cs.dropWhile isOuter).filter isKept)

theorem leadingScheme?_append {cs ending : List Char} (hcolon : ':' ∉ ending) :
    leadingScheme? (cs ++ ending) = leadingScheme? cs := by
  unfold leadingScheme? cutScheme?
  rw [Text.splitFirst?_append hcolon]
  cases Text.splitFirst? ':' cs with
  | none => rfl
  | some sides =>
      obtain ⟨_ | ⟨first, more⟩, rest⟩ := sides
      · rfl
      · dsimp only [Option.map_some]
        split <;> rfl

theorem leadingScheme?_eq_none {cs : List Char} (hcolon : ':' ∉ cs) : leadingScheme? cs = none := by
  rw [← List.nil_append cs, leadingScheme?_append hcolon]
  rfl

theorem leadingScheme?_cons {c : Char} (hletter : c.isAlpha = false) (rest : List Char) :
    leadingScheme? (c :: rest) = none := by
  unfold leadingScheme? cutScheme? Text.splitFirst?
  split
  · next first more _ hcut =>
      have hfirst : first = c := by
        split at hcut
        · cases hcut
        · simp only [Option.map_eq_some_iff, Prod.exists, Prod.mk.injEq, List.cons.injEq] at hcut
          obtain ⟨_, _, -, ⟨rfl, -⟩, -⟩ := hcut
          rfl
      rw [hfirst, hletter]
      rfl
  · rfl

theorem spelledScheme?_cons {c : Char} (houter : isOuter c = false) (hletter : c.isAlpha = false)
    (rest : List Char) : spelledScheme? (c :: rest) = none := by
  have hkept : isKept c := by
    unfold isKept
    simp only [Bool.not_eq_true', Bool.or_eq_false_iff, decide_eq_false_iff_not]
    refine ⟨⟨?_, ?_⟩, ?_⟩ <;>
      · rintro rfl
        revert houter
        decide
  rw [spelledScheme?, List.dropWhile_cons_of_neg (by simp [houter]), List.filter_cons_of_pos hkept]
  exact leadingScheme?_cons hletter _

theorem spelledScheme?_eq_none {cs : List Char} (hcolon : ':' ∉ cs) : spelledScheme? cs = none :=
  leadingScheme?_eq_none fun hmem =>
    hcolon ((List.dropWhile_suffix isOuter).subset (List.mem_filter.mp hmem).1)

/-- Nothing after the last colon matters. -/
theorem spelledScheme?_append {cs ending : List Char} (hcolon : ':' ∉ ending) :
    spelledScheme? (cs ++ ending) = spelledScheme? cs := by
  unfold spelledScheme?
  rw [List.dropWhile_append]
  split
  · next hnothing =>
      rw [List.isEmpty_iff.mp hnothing]
      exact spelledScheme?_eq_none hcolon
  · rw [List.filter_append]
    exact leadingScheme?_append fun hmem => hcolon (List.mem_filter.mp hmem).1

/-- The scheme of an absolute URL is the one that the text spells. Of the parser this is all that
the statements below depend on. -/
theorem spelledScheme?_of_scheme? {s scheme : String} (h : scheme? s = some scheme) :
    spelledScheme? s.toList = some scheme.toList := by
  obtain ⟨ending, hcut, houter⟩ := Text.dropWhile_eq_trimBy_append isOuter s.toList
  have hcolon : ':' ∉ ending.filter isKept := fun hmem =>
    absurd (houter ':' (List.mem_filter.mp hmem).1) (by decide)
  rw [spelledScheme?, hcut, List.filter_append, leadingScheme?_append hcolon]
  change leadingScheme? (significant s.toList) = _
  unfold scheme? at h
  unfold leadingScheme?
  cases hscheme : cutScheme? (significant s.toList) with
  | none => simp [hscheme] at h
  | some sides =>
      obtain ⟨letters, rest⟩ := sides
      simp only [hscheme, Option.bind_eq_bind, Option.bind_some, Option.ite_none_right_eq_some,
        Option.some.injEq] at h
      rw [← h.2, String.toList_ofList]
      rfl

/-- A text with a scheme keeps it when blanks are taken off its front: the blanks that the parser
does not skip cannot stand before a scheme. -/
theorem spelledScheme?_dropWhile_isBlank {cs scheme : List Char}
    (h : spelledScheme? cs = some scheme) :
    spelledScheme? (cs.dropWhile Text.isBlank) = some scheme := by
  induction cs with
  | nil => exact h
  | cons c rest ih =>
      by_cases hblank : Text.isBlank c
      · rw [List.dropWhile_cons_of_pos hblank]
        refine ih ?_
        by_cases houter : isOuter c
        · rwa [spelledScheme?, List.dropWhile_cons_of_pos houter] at h
        · rw [spelledScheme?_cons (Bool.eq_false_iff.mpr houter)
            (Text.isAlpha_of_isBlank hblank)] at h
          cases h
      · rwa [List.dropWhile_cons_of_neg hblank]

theorem spelledScheme?_trimChars {cs scheme : List Char} (h : spelledScheme? cs = some scheme) :
    spelledScheme? (Text.trimChars cs) = some scheme := by
  obtain ⟨ending, hcut, hblank⟩ := Text.dropWhile_eq_trimBy_append Text.isBlank cs
  have hcolon : ':' ∉ ending := fun hmem => absurd (hblank ':' hmem) (by decide)
  have hfront := spelledScheme?_dropWhile_isBlank h
  rwa [hcut, spelledScheme?_append hcolon] at hfront

end Url

namespace Link

/-! ### The forms of a link -/

/-- A letter or digit, and then any number of letters, digits, dots, underscores, tildes, slashes
and hyphens. -/
inductive SpellsBarePath : List Char → Prop
  | intro {first : Char} {rest : List Char}
      (start : 'A' ≤ first ∧ first ≤ 'Z' ∨ 'a' ≤ first ∧ first ≤ 'z' ∨ '0' ≤ first ∧ first ≤ '9')
      (more : ∀ c ∈ rest, 'A' ≤ c ∧ c ≤ 'Z' ∨ 'a' ≤ c ∧ c ≤ 'z' ∨ '0' ≤ c ∧ c ≤ '9' ∨
        c = '-' ∨ c = '.' ∨ c = '_' ∨ c = '~' ∨ c = '/') :
      SpellsBarePath (first :: rest)

theorem isPathChar_iff {c : Char} :
    isPathChar c ↔ 'A' ≤ c ∧ c ≤ 'Z' ∨ 'a' ≤ c ∧ c ≤ 'z' ∨ '0' ≤ c ∧ c ≤ '9' ∨
      c = '-' ∨ c = '.' ∨ c = '_' ∨ c = '~' ∨ c = '/' := by
  simp only [isPathChar, Bool.or_eq_true, isAlphanum_iff, decide_eq_true_eq, or_assoc]

theorem isBarePath_iff {cs : List Char} : isBarePath cs ↔ SpellsBarePath cs := by
  cases cs with
  | nil =>
      constructor
      · intro h
        cases h
      · intro h
        cases h
  | cons first rest =>
      rw [isBarePath, Bool.and_eq_true, isAlphanum_iff, List.all_eq_true]
      simp only [isPathChar_iff]
      constructor
      · rintro ⟨start, more⟩
        exact .intro start more
      · rintro ⟨start, more⟩
        exact ⟨start, more⟩

theorem colon_notMem_of_isBarePath {cs : List Char} (h : isBarePath cs) : ':' ∉ cs := by
  cases cs with
  | nil => exact List.not_mem_nil
  | cons first rest =>
      rw [isBarePath, Bool.and_eq_true, List.all_eq_true] at h
      rw [List.mem_cons]
      rintro (rfl | hmem)
      · exact absurd h.1 (by decide)
      · exact absurd (h.2 ':' hmem) (by decide)

/-- What is spelled as a path is no URL, so nothing is lost by asking for both. -/
theorem isAbsoluteUrl_of_isBarePath {s : String} (h : isBarePath s.toList) :
    isAbsoluteUrl s = false := by
  rw [isAbsoluteUrl, Option.isSome_eq_false_iff, Option.isNone_iff_eq_none]
  cases hscheme : Url.scheme? s with
  | none => rfl
  | some scheme =>
      have hspelled := Url.spelledScheme?_of_scheme? hscheme
      rw [Url.spelledScheme?_eq_none (colon_notMem_of_isBarePath h)] at hspelled
      cases hspelled

theorem isLink_iff {s : String} :
    isLink s ↔ "#".toList <+: Text.trimChars s.toList ∨ "/".toList <+: Text.trimChars s.toList ∨
      "./".toList <+: Text.trimChars s.toList ∨ "../".toList <+: Text.trimChars s.toList ∨
      Url.scheme? (Text.trim s) = some "http" ∨ Url.scheme? (Text.trim s) = some "https" ∨
      SpellsBarePath (Text.trimChars s.toList) := by
  have hpath : (!isAbsoluteUrl (Text.trim s) && isBarePath (Text.trimChars s.toList)) = true ↔
      SpellsBarePath (Text.trimChars s.toList) := by
    rw [Bool.and_eq_true, ← isBarePath_iff, and_iff_right_iff_imp]
    intro hbare
    rw [isAbsoluteUrl_of_isBarePath (by rwa [Text.toList_trim])]
    rfl
  simp only [isLink, startsWith, isHttpUrl, Text.toList_trim, Bool.or_eq_true,
    List.isPrefixOf_iff_prefix, decide_eq_true_eq, hpath, or_assoc]

theorem spelledScheme?_of_startsWith {c : Char} {rest cs : List Char}
    (houter : Url.isOuter c = false) (hletter : c.isAlpha = false) (h : c :: rest <+: cs) :
    Url.spelledScheme? cs = none := by
  obtain ⟨ending, rfl⟩ := h
  exact Url.spelledScheme?_cons houter hletter _

/-- A link leads to the web or stays on the site: neither as it was written nor trimmed is it a URL
of a scheme besides `http` and `https`. It is a link just if its trimmed text is an anchor, an
explicit path, a URL of the web or a bare path. -/
theorem links_stay_on_the_web (s : String) :
    (isLink s → ∀ scheme,
      Url.scheme? s = some scheme ∨ Url.scheme? (Text.trim s) = some scheme →
        scheme = "http" ∨ scheme = "https") ∧
      (isLink s ↔
        "#".toList <+: Text.trimChars s.toList ∨ "/".toList <+: Text.trimChars s.toList ∨
        "./".toList <+: Text.trimChars s.toList ∨ "../".toList <+: Text.trimChars s.toList ∨
        Url.scheme? (Text.trim s) = some "http" ∨ Url.scheme? (Text.trim s) = some "https" ∨
        SpellsBarePath (Text.trimChars s.toList)) := by
  refine ⟨fun hlink scheme hscheme => ?_, isLink_iff⟩
  -- Either way the trimmed text spells the scheme, whether or not it still is a URL.
  have hspelled : Url.spelledScheme? (Text.trimChars s.toList) = some scheme.toList := by
    rcases hscheme with hscheme | hscheme
    · exact Url.spelledScheme?_trimChars (Url.spelledScheme?_of_scheme? hscheme)
    · rw [← Text.toList_trim]
      exact Url.spelledScheme?_of_scheme? hscheme
  have hweb {web : String} (h : Url.scheme? (Text.trim s) = some web) : scheme = web := by
    have hother := Url.spelledScheme?_of_scheme? h
    rw [Text.toList_trim, hspelled, Option.some.injEq] at hother
    exact String.toList_inj.mp hother
  have hnone (h : Url.spelledScheme? (Text.trimChars s.toList) = none) : False := by
    rw [hspelled] at h
    cases h
  rcases isLink_iff.mp hlink with h | h | h | h | h | h | h
  · exact (hnone (spelledScheme?_of_startsWith (by decide) (by decide) h)).elim
  · exact (hnone (spelledScheme?_of_startsWith (by decide) (by decide) h)).elim
  · exact (hnone (spelledScheme?_of_startsWith (by decide) (by decide) h)).elim
  · exact (hnone (spelledScheme?_of_startsWith (by decide) (by decide) h)).elim
  · exact .inl (hweb h)
  · exact .inr (hweb h)
  · exact (hnone (Url.spelledScheme?_eq_none
      (colon_notMem_of_isBarePath (isBarePath_iff.mpr h)))).elim

/-- A padded web address is a link, and its scheme is one of the web. -/
theorem links_stay_on_the_web_padded :
    isLink " http://localhost:3000\t" ∧
      ∃ scheme, Url.scheme? " http://localhost:3000\t" = some scheme ∧
        (scheme = "http" ∨ scheme = "https") := by
  have hlink : isLink " http://localhost:3000\t" := by decide +kernel
  have hscheme : Url.scheme? " http://localhost:3000\t" = some "http" := by decide +kernel
  exact ⟨hlink, "http", hscheme, (links_stay_on_the_web _).1 hlink "http" (.inl hscheme)⟩

-- Trimmed, and with the tab left out, this is a script.
example : isLink "\u00a0java\tscript:alert(1)" = false := by decide +kernel

end Link

end ContentForms

import ContentForms.Api.Submission
import ContentForms.Proofs.Digits
import ContentForms.Proofs.Paths
import ContentForms.Store.Uploads

/-!
The places where content can be stored. A content name, a slug and the extension of an upload come
from texts that anyone can send, and each becomes a part of a file path. `Layout.Place` lists the
forms that such a path can have, with the letters and lengths written out; every path that is built
from texts that were accepted has one of them. No name in such a path is empty, leads up or stays,
or can be taken for more than one name, so below whatever root the path goes just where it says.
-/

namespace ContentForms

/-! ### Letters -/

/-- One to 128 ASCII letters, digits, hyphens and underscores. -/
structure IsNameText (s : String) : Prop where
  notEmpty : 1 ≤ s.toList.length
  short : s.toList.length ≤ 128
  plain : ∀ c ∈ s.toList, 'A' ≤ c ∧ c ≤ 'Z' ∨ 'a' ≤ c ∧ c ≤ 'z' ∨ '0' ≤ c ∧ c ≤ '9' ∨
    c = '-' ∨ c = '_'

/-- One to ten ASCII letters in lower case and digits. -/
structure IsExtensionText (s : String) : Prop where
  notEmpty : 1 ≤ s.toList.length
  short : s.toList.length ≤ 10
  plain : ∀ c ∈ s.toList, 'a' ≤ c ∧ c ≤ 'z' ∨ '0' ≤ c ∧ c ≤ '9'

theorem isAlphanum_iff {c : Char} :
    c.isAlphanum ↔ 'A' ≤ c ∧ c ≤ 'Z' ∨ 'a' ≤ c ∧ c ≤ 'z' ∨ '0' ≤ c ∧ c ≤ '9' := by
  have hupper : c.isUpper ↔ 'A' ≤ c ∧ c ≤ 'Z' := decide_eq_true_iff
  have hrange (first last : Char) :
      (decide (first ≤ c) && decide (c ≤ last)) = true ↔ first ≤ c ∧ c ≤ last := by
    rw [Bool.and_eq_true, decide_eq_true_iff, decide_eq_true_iff]
  have hlower : c.isLower ↔ 'a' ≤ c ∧ c ≤ 'z' := hrange 'a' 'z'
  have hdigit : c.isDigit ↔ '0' ≤ c ∧ c ≤ '9' := hrange '0' '9'
  show (c.isUpper || c.isLower || c.isDigit) = true ↔ _
  rw [Bool.or_eq_true, Bool.or_eq_true, or_assoc, hupper, hlower, hdigit]

theorem isNameChar_iff {c : Char} :
    isNameChar c ↔ 'A' ≤ c ∧ c ≤ 'Z' ∨ 'a' ≤ c ∧ c ≤ 'z' ∨ '0' ≤ c ∧ c ≤ '9' ∨
      c = '-' ∨ c = '_' := by
  rw [isNameChar, Bool.or_eq_true, Bool.or_eq_true, isAlphanum_iff, decide_eq_true_iff,
    decide_eq_true_iff]
  simp only [or_assoc]

theorem isNameText_iff {s : String} : IsNameText s ↔ isSafeName s := by
  simp only [isSafeName, Bool.and_eq_true, Bool.not_eq_true', List.isEmpty_eq_false_iff,
    decide_eq_true_eq, List.all_eq_true, isNameChar_iff]
  constructor
  · rintro ⟨hempty, hshort, hplain⟩
    exact ⟨⟨List.length_pos_iff.mp hempty, hshort⟩, hplain⟩
  · rintro ⟨⟨hempty, hshort⟩, hplain⟩
    exact ⟨List.length_pos_iff.mpr hempty, hshort, hplain⟩

theorem toLower_of_isAlphanum {c : Char} (h : c.isAlphanum) :
    'a' ≤ c.toLower ∧ c.toLower ≤ 'z' ∨ '0' ≤ c.toLower ∧ c.toLower ≤ '9' := by
  rw [isAlphanum_iff] at h
  unfold Char.toLower
  split
  · next hupper =>
      obtain ⟨hlow, hhigh⟩ := hupper
      change 65 ≤ c.val.toNat at hlow
      change c.val.toNat ≤ 90 at hhigh
      have hsum : (c.val + ('a'.val - 'A'.val)).toNat = c.val.toNat + 32 := by
        rw [UInt32.toNat_add]
        show (c.val.toNat + 32) % 2 ^ 32 = _
        omega
      simp only [Char.le_def, UInt32.le_iff_toNat_le, hsum]
      show 97 ≤ c.val.toNat + 32 ∧ c.val.toNat + 32 ≤ 122 ∨ _
      omega
  · next hupper =>
      exact h.resolve_left hupper

theorem Image.isExtensionText {fileName extension : String}
    (h : extension? fileName = some extension) : IsExtensionText extension := by
  unfold extension? at h
  split at h
  · cases h
  · next before cs _ =>
      split at h
      · cases h
      · next haccepted =>
          cases h
          simp only [Bool.or_eq_true, not_or, List.isEmpty_iff, decide_eq_true_eq, Nat.not_lt,
            Bool.not_eq_true', Bool.not_eq_false, List.all_eq_true] at haccepted
          obtain ⟨⟨hempty, hshort⟩, hplain⟩ := haccepted
          refine ⟨?_, ?_, ?_⟩ <;> rw [String.toList_ofList]
          · rw [List.length_map]
            exact List.length_pos_iff.mpr hempty
          · rw [List.length_map]
            exact hshort
          · intro c hmem
            obtain ⟨letter, hletter, rfl⟩ := List.mem_map.mp hmem
            exact toLower_of_isAlphanum (hplain letter hletter)

/-! ### Names that go where they say -/

/-- A name of a path that leads to what has this name, and does not lead up or through anything
else. -/
structure PathText.IsHarmless (name : String) : Prop extends IsComponent name where
  notUp : name ≠ ".."
  noBackslash : '\\' ∉ name.toList

def isPathChar (c : Char) : Bool :=
  isNameChar c || c = '.'

theorem all_isPathChar {cs : List Char} (h : cs.all isNameChar) : cs.all isPathChar := by
  rw [List.all_eq_true] at h ⊢
  intro c hmem
  rw [isPathChar, h c hmem, Bool.true_or]

/-- Dots do no harm beside a character of another kind. -/
theorem PathText.isHarmless_of_chars {name : String} (h : name.toList.all isPathChar)
    (hsome : name.toList.any isNameChar) : IsHarmless name := by
  have hdots {text : String} (hdots : text.toList.any isNameChar = false) : name ≠ text := by
    rintro rfl
    rw [hsome] at hdots
    cases hdots
  have hnot {c : Char} (hc : isPathChar c = false) : c ∉ name.toList := by
    intro hmem
    have hpath : isPathChar c := List.all_eq_true.mp h c hmem
    rw [hc] at hpath
    cases hpath
  exact
    { noSlash := hnot (by decide)
      notEmpty := hdots (by decide)
      notDot := hdots (by decide)
      notUp := hdots (by decide)
      noBackslash := hnot (by decide) }

theorem PathText.isHarmless_append {name ending : String} (hname : name.toList.all isNameChar)
    (hsome : name.toList ≠ []) (hending : ending.toList.all isPathChar) :
    IsHarmless (name ++ ending) := by
  apply isHarmless_of_chars
  · rw [String.toList_append, List.all_append, all_isPathChar hname, hending, Bool.and_self]
  · obtain ⟨c, hmem⟩ := List.exists_mem_of_ne_nil _ hsome
    rw [String.toList_append, List.any_append, Bool.or_eq_true]
    exact .inl (List.any_eq_true.mpr ⟨c, hmem, List.all_eq_true.mp hname c hmem⟩)

/-! ### Places -/

namespace Layout

/-- The paths at which content can be stored: those of a schema, of the document of a page, of an
entry or the index of a blog, and of an upload. -/
inductive Place : DiskPath → Prop
  | schema (type : ContentType) {name : String} (named : IsNameText name) :
      Place ["cms", type.text ++ "." ++ name ++ ".yaml"]
  | page {name : String} (named : IsNameText name) : Place ["data", name ++ ".json"]
  | entry {name slug : String} (named : IsNameText name) (slugged : IsNameText slug)
      (notNew : slug ≠ "new") : Place ["data", name, slug ++ ".json"]
  | upload (stamp : Int) {extension : String} (extended : IsExtensionText extension) :
      Place ["uploads", String.ofList (Text.decimalInt stamp) ++ "." ++ extension]

theorem place_schemaFile (key : ContentKey) : Place (schemaFile key) :=
  .schema key.type (isNameText_iff.mpr key.name.safe)

theorem place_entry (blog : ContentName) (slug : Slug) : Place (entry blog slug) :=
  .entry (isNameText_iff.mpr blog.safe) (isNameText_iff.mpr slug.safe) slug.notNew

theorem place_document (key : ContentKey) : Place (document key) := by
  obtain ⟨type, name⟩ := key
  have hname : IsNameText name.text := isNameText_iff.mpr name.safe
  cases type with
  | page => exact .page hname
  | blog =>
      -- The index has the file name of an entry with the slug `index`.
      have hindex : IsNameText "index" := isNameText_iff.mpr (by decide)
      exact .entry hname hindex (by decide)

theorem place_upload (stamp : Int) {extension : String} (h : IsExtensionText extension) :
    Place (upload (Store.uploadName stamp extension)) :=
  .upload stamp h

theorem chars_of_isNameText {s : String} (h : IsNameText s) : s.toList.all isNameChar :=
  List.all_eq_true.mpr fun c hmem => isNameChar_iff.mpr (h.plain c hmem)

theorem isHarmless_file {name ending : String} (h : IsNameText name)
    (hending : ending.toList.all isPathChar) : PathText.IsHarmless (name ++ ending) :=
  PathText.isHarmless_append (chars_of_isNameText h) (List.length_pos_iff.mp h.notEmpty) hending

theorem isHarmless_of_isNameText {s : String} (h : IsNameText s) : PathText.IsHarmless s := by
  have hfile := isHarmless_file h (by decide : "".toList.all isPathChar)
  rwa [String.append_empty] at hfile

theorem isHarmless_schemaName (type : ContentType) {name : String} (h : IsNameText name) :
    PathText.IsHarmless (type.text ++ "." ++ name ++ ".yaml") := by
  have htype : IsNameText type.text := isNameText_iff.mpr (by cases type <;> decide)
  have hname : name.toList.all isPathChar := all_isPathChar (chars_of_isNameText h)
  rw [String.append_assoc, String.append_assoc]
  apply isHarmless_file htype
  simp only [String.toList_append, List.all_append, hname]
  decide

theorem chars_of_isExtensionText {s : String} (h : IsExtensionText s) :
    s.toList.all isNameChar := by
  refine List.all_eq_true.mpr fun c hmem => isNameChar_iff.mpr ?_
  rcases h.plain c hmem with hletter | hdigit
  · exact .inr (.inl hletter)
  · exact .inr (.inr (.inl hdigit))

theorem chars_decimalInt (i : Int) : (Text.decimalInt i).all isNameChar := by
  have hdigits : (Text.decimal i.natAbs).all isNameChar := by
    refine List.all_eq_true.mpr fun c hmem => ?_
    rw [isNameChar, Char.isAlphanum, Text.isDigit_of_mem_decimal hmem, Bool.or_true]
    rfl
  rw [Text.decimalInt_eq, List.all_append, hdigits, Bool.and_true]
  split
  · decide
  · rfl

/-- A stamp before the epoch has a sign, which a name may have too. -/
theorem isHarmless_uploadName (stamp : Int) {extension : String} (h : IsExtensionText extension) :
    PathText.IsHarmless (String.ofList (Text.decimalInt stamp) ++ "." ++ extension) := by
  have hextension : extension.toList.all isPathChar := all_isPathChar (chars_of_isExtensionText h)
  rw [String.append_assoc]
  apply PathText.isHarmless_append
  · rw [String.toList_ofList]
    exact chars_decimalInt stamp
  · rw [String.toList_ofList, Text.decimalInt_eq]
    exact List.append_ne_nil_of_right_ne_nil _ (Text.decimal_ne_nil _)
  · rw [String.toList_append, List.all_append, hextension]
    decide

theorem Place.isHarmless {path : DiskPath} (h : Place path) :
    ∀ name ∈ path, PathText.IsHarmless name := by
  have hfixed {s : String} (hs : isSafeName s) : PathText.IsHarmless s :=
    isHarmless_of_isNameText (isNameText_iff.mpr hs)
  have hpair {a b : String} (ha : PathText.IsHarmless a) (hb : PathText.IsHarmless b) :
      ∀ name ∈ [a, b], PathText.IsHarmless name := by
    simp [ha, hb]
  cases h with
  | schema type named => exact hpair (hfixed (by decide)) (isHarmless_schemaName type named)
  | page named => exact hpair (hfixed (by decide)) (isHarmless_file named (by decide))
  | entry named slugged =>
      refine List.forall_mem_cons.mpr ⟨hfixed (by decide), hpair ?_ ?_⟩
      · exact isHarmless_of_isNameText named
      · exact isHarmless_file slugged (by decide)
  | upload stamp extended =>
      exact hpair (hfixed (by decide)) (isHarmless_uploadName stamp extended)

end Layout

end ContentForms

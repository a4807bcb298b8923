import ContentForms.Content.Name
import ContentForms.Text.Split

/-!
Content keys. A type and a name together key one schema: its file is called `<type>.<name>.yaml`,
and the compiled schema is kept under the same key. Since a name has no dot, the file name can be
cut back into its parts at the first one. Keys are ordered pages first, then by name.
-/

namespace ContentForms

structure ContentKey where
  type : ContentType
  name : ContentName
  deriving DecidableEq

namespace ContentKey

def ofTexts (type name : String) : Except NameError ContentKey := do
  let t ← ContentType.ofText type
  let n ← ContentName.ofText name
  pure ⟨t, n⟩

def text (key : ContentKey) : String :=
  key.type.text ++ "." ++ key.name.text

def fileName (key : ContentKey) : String :=
  key.text ++ ".yaml"

def ofFileName? (fileName : String) : Option ContentKey := do
  let stem ← Text.dropEnd? ".yaml" fileName.toList
  let (type, name) ← Text.splitFirst? '.' stem
  (ofTexts (String.ofList type) (String.ofList name)).toOption

/-- Pages come before blogs, and within a type the names ascend. -/
def le (a b : ContentKey) : Bool :=
  match a.type, b.type with
  | .page, .blog => true
  | .blog, .page => false
  | _, _ => decide (a.name.text ≤ b.name.text)

def sort (keys : List ContentKey) : List ContentKey :=
  keys.mergeSort le

/-- The type of a variant value: its name, or an object with the name as its only key and null as
the value. -/
def decodeType : Json → Except DecodeError ContentType
  | .str s => known s
  | .obj [(s, value)] => do
      let t ← known s
      if value = .null then pure t else throw .wrongType
  | .obj _ => throw .notOneMember
  | _ => throw .wrongType
where
  known (s : String) : Except DecodeError ContentType :=
    (ContentType.ofText s).mapError fun _ => .unknownVariant s ["page", "blog"]

/-- Reads a key from an object, whose other members do not matter, or from a list of exactly the
type and the name. Members are looked at in key order, and items in list order. -/
def decode : Json → Except DecodeError ContentKey
  | .obj members => do
      let name ← (Assoc.get? "name" members).mapM ContentName.decode
      let type ← (Assoc.get? "type" members).mapM decodeType
      match type, name with
      | none, _ => throw (.missingField "type")
      | _, none => throw (.missingField "name")
      | some t, some n => pure ⟨t, n⟩
  | .arr [] => throw .wrongLength
  | .arr [type] => do
      let _ ← decodeType type
      throw .wrongLength
  | .arr (type :: name :: rest) => do
      let t ← decodeType type
      let n ← ContentName.decode name
      if rest.isEmpty then pure ⟨t, n⟩ else throw .wrongLength
  | _ => throw .wrongType

def toJson (key : ContentKey) : Json :=
  .obj [("type", .str key.type.text), ("name", .str key.name.text)]

theorem texts_of_ofTexts {type name : String} {key : ContentKey}
    (h : ofTexts type name = .ok key) : key.type.text = type ∧ key.name.text = name := by
  unfold ofTexts at h
  cases htype : ContentType.ofText type with
  | error e =>
      rw [htype] at h
      cases h
  | ok t =>
      cases hname : ContentName.ofText name with
      | error e =>
          rw [htype, hname] at h
          cases h
      | ok n =>
          rw [htype, hname] at h
          cases h
          exact ⟨ContentType.text_of_ofText htype, ContentName.text_of_ofText hname⟩

theorem ofTexts_eq_ok_iff {type name : String} {key : ContentKey} :
    ofTexts type name = .ok key ↔ type = key.type.text ∧ name = key.name.text := by
  constructor
  · intro h
    obtain ⟨htype, hname⟩ := texts_of_ofTexts h
    exact ⟨htype.symm, hname.symm⟩
  · rintro ⟨rfl, rfl⟩
    rw [ofTexts, ContentType.ofText_text, ContentName.ofText_text]
    rfl

end ContentKey

end ContentForms

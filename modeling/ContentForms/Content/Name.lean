import ContentForms.Json.Decode

/-!
Names of stored content. A name and a slug become components of file paths, so both are one to 128
ASCII letters, digits, hyphens and underscores: no such text is empty, is `.` or `..`, or contains a
separator. A slug is moreover never `new`, which stands for an entry that does not exist yet.
-/

namespace ContentForms

def maxNameLength : Nat := 128

def isNameChar (c : Char) : Bool :=
  c.isAlphanum || c = '-' || c = '_'

def isSafeName (s : String) : Bool :=
  !s.toList.isEmpty && s.toList.length ≤ maxNameLength && s.toList.all isNameChar

/-- The slug of an entry that does not exist yet. -/
def newSlug : String := "new"

structure ContentName where
  text : String
  safe : isSafeName text = true
  deriving DecidableEq

structure Slug where
  text : String
  safe : isSafeName text = true
  notNew : text ≠ newSlug
  deriving DecidableEq

/-- What is stored under a name: one document, or a collection of entries with an index document. -/
inductive ContentType where
  | page
  | blog
  deriving DecidableEq

inductive NameError where
  | unknownContentType (given : String)
  | invalidContentName (given : String)
  | invalidSlug (given : String)
  deriving DecidableEq

def NameError.message : NameError → String
  | unknownContentType given =>
      "unknown content type '" ++ given ++ "': expected \"page\" or \"blog\""
  | invalidContentName given => "invalid content name '" ++ given ++ "'"
  | invalidSlug given => "invalid slug '" ++ given ++ "'"

namespace ContentName

def ofText (s : String) : Except NameError ContentName :=
  if h : isSafeName s = true then .ok ⟨s, h⟩ else .error (.invalidContentName s)

def decode : Json → Except DecodeError ContentName
  | .str s => (ofText s).mapError fun e => .refused e.message
  | _ => .error .wrongType

@[simp] theorem ofText_text (n : ContentName) : ofText n.text = .ok n := by
  simp [ofText, n.safe]

theorem text_of_ofText {s : String} {name : ContentName} (h : ofText s = .ok name) :
    name.text = s := by
  unfold ofText at h
  split at h
  · cases h
    rfl
  · cases h

end ContentName

namespace Slug

def ofText (s : String) : Except NameError Slug :=
  if hnew : s = newSlug then .error (.invalidSlug s)
  else if h : isSafeName s = true then .ok ⟨s, h, hnew⟩
  else .error (.invalidSlug s)

def decode : Json → Except DecodeError Slug
  | .str s => (ofText s).mapError fun e => .refused e.message
  | _ => .error .wrongType

@[simp] theorem ofText_text (s : Slug) : ofText s.text = .ok s := by
  simp [ofText, s.safe, s.notNew]

end Slug

namespace ContentType

def text : ContentType → String
  | page => "page"
  | blog => "blog"

def ofText (s : String) : Except NameError ContentType :=
  if s = "page" then .ok page
  else if s = "blog" then .ok blog
  else .error (.unknownContentType s)

@[simp] theorem ofText_text (t : ContentType) : ofText t.text = .ok t := by
  cases t <;> rfl

theorem text_of_ofText {s : String} {type : ContentType} (h : ofText s = .ok type) :
    type.text = s := by
  unfold ofText at h
  split at h
  · next hpage =>
      cases h
      exact hpage.symm
  · split at h
    · next hblog =>
        cases h
        exact hblog.symm
    · cases h

end ContentType

end ContentForms

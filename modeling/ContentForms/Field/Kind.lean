/-!
The kinds of form fields. Every name is a kind: one that is not known is kept as it is given, so a
schema with fields of a later version still loads.
-/

namespace ContentForms

inductive FieldKind where
  /-- One line of text. -/
  | string
  /-- Several lines of text. -/
  | text
  | richText
  | number
  /-- A link: absolute, relative or to an anchor of the page. -/
  | url
  /-- The absolute address of an image. -/
  | image
  | select
  /-- A group of named fields. -/
  | object
  /-- Rows of the same fields. -/
  | list
  /-- An image or video with fields of its own. -/
  | media
  | other (name : String)
  deriving DecidableEq

namespace FieldKind

def ofName : String → FieldKind
  | "string" => string
  | "text" => text
  | "richtext" => richText
  | "number" => number
  | "url" => url
  | "image" => image
  | "select" => select
  | "object" => object
  | "list" => list
  | "media" => media
  | name => other name

def name : FieldKind → String
  | string => "string"
  | text => "text"
  | richText => "richtext"
  | number => "number"
  | url => "url"
  | image => "image"
  | select => "select"
  | object => "object"
  | list => "list"
  | media => "media"
  | other name => name

@[simp] theorem name_ofName (s : String) : (ofName s).name = s := by
  unfold ofName
  split <;> rfl

end FieldKind

end ContentForms

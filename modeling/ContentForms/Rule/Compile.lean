import ContentForms.Rule.Basic
import ContentForms.Schema.Document

/-!
From descriptors to rules. Every descriptor has a rule; nothing is refused here. Position decides
how strict it is: a field is required unless an object or a list encloses it, and the fields of a
media value are as strict as the media field. Unknown kinds and selections without options ask for
a text and nothing more. Of two siblings with one id the first is used.
-/

namespace ContentForms.Rule

/-- The members of a media value whose schema names none: its type and its address. -/
def minimalMedia : List (String × Rule) :=
  [("type", .text "type" .plain true), ("link", .text "link" .absoluteUrl true)]

/-- Any text, or none at all. -/
def anyText (label : String) : Rule :=
  .text label .plain false

def ofOptions (label : String) (options : OptionSet) (nested : Bool) : Rule :=
  if options.isEmpty then anyText label
  else .choice label options.allowed options.multiple (!nested)

mutual
/-- The rule of a descriptor, at the top or nested in an object or a list. -/
def ofField : FieldDescriptor → (nested : Bool) → Rule
  | ⟨_, label, kind, fields, options, _⟩, nested =>
      match kind with
      | .string | .text | .richText => .text label .plain (!nested)
      | .number => .number label
      | .url => .text label .link (!nested)
      | .image => .text label .image (!nested)
      | .select => ofOptions label options nested
      | .object => .record label (Assoc.firsts (ofFields fields true)) (!nested)
      | .list =>
          if fields.isEmpty then .list label none
          else .list label (some (.record label (Assoc.firsts (ofFields fields true)) true))
      | .media =>
          if fields.isEmpty then .media label minimalMedia (!nested) true
          else .media label (Assoc.firsts (ofFields fields nested)) (!nested) false
      | .other _ => anyText label

def ofFields : List FieldDescriptor → (nested : Bool) → List (String × Rule)
  | [], _ => []
  | field :: rest, nested => (field.id, ofField field nested) :: ofFields rest nested
end

/-- The rules of sibling descriptors; the first of those with one id counts. -/
def ofSiblings (fields : List FieldDescriptor) (nested : Bool) : List (String × Rule) :=
  Assoc.firsts (ofFields fields nested)

mutual
def ofBody : SectionBody → (key : String) → Rule
  | .fieldList fields, key => .record key (ofSiblings fields false) true
  | .oneField field, _ => ofField field false
  | .sectionMap sections, key => .record key (ofBodies sections) true

def ofBodies : List (String × SectionBody) → List (String × Rule)
  | [] => []
  | (key, body) :: rest => (key, ofBody body key) :: ofBodies rest
end

end ContentForms.Rule

namespace ContentForms

/-- A whole schema as rules: those of the members of the document. -/
structure CompiledSchema where
  members : List (String × Rule)

namespace CompiledSchema

def rootLabel : String := "El documento"

def root (schema : CompiledSchema) : Rule :=
  .record rootLabel schema.members true

def ofFields (fields : List FieldDescriptor) : CompiledSchema :=
  ⟨Rule.ofSiblings fields false⟩

end CompiledSchema

def SchemaDocument.compile : SchemaDocument → CompiledSchema
  | .flat fields => .ofFields fields
  | .sectioned sections => ⟨Rule.ofBodies sections⟩

end ContentForms

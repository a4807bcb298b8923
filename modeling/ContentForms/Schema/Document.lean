import ContentForms.Field.Descriptor

/-!
Schema documents. A schema is a list of fields, or a map of sections; the body of a section is a
list of fields, one field, or a map of sections again. The shape of the JSON value decides: a list
is a list of fields, an object with an `id` that makes it a descriptor is one field, and any other
object is a map of sections. One item that cannot be read spoils the whole document, unlike a
nested field.
-/

namespace ContentForms

inductive SectionBody where
  | fieldList (fields : List FieldDescriptor)
  | oneField (field : FieldDescriptor)
  | sectionMap (sections : List (String × SectionBody))

inductive SchemaDocument where
  | flat (fields : List FieldDescriptor)
  | sectioned (sections : List (String × SectionBody))

def readFields? (items : List Json) : Option (List FieldDescriptor) :=
  items.mapM fun item => (FieldDescriptor.ofJson item).toOption

namespace SectionBody

mutual
def ofJson? : Json → Option SectionBody
  | .arr items => (readFields? items).map .fieldList
  | .obj members =>
      match FieldDescriptor.ofJson (.obj members) with
      | .ok field => some (.oneField field)
      | .error _ => (bodiesOf? members).map fun bodies => .sectionMap (Assoc.ofList bodies)
  | _ => none

def bodiesOf? : List (String × Json) → Option (List (String × SectionBody))
  | [] => some []
  | (key, value) :: rest =>
      match ofJson? value, bodiesOf? rest with
      | some body, some bodies => some ((key, body) :: bodies)
      | _, _ => none
end

mutual
def toJson : SectionBody → Json
  | .fieldList fields => .arr (fields.map FieldDescriptor.toJson)
  | .oneField field => field.toJson
  | .sectionMap sections => .obj (membersOf sections)

def membersOf : List (String × SectionBody) → List (String × Json)
  | [] => []
  | (key, body) :: rest => (key, toJson body) :: membersOf rest
end

mutual
def fieldCount : SectionBody → Nat
  | .fieldList fields => FieldDescriptor.countAll fields
  | .oneField field => field.count
  | .sectionMap sections => fieldCounts sections

def fieldCounts : List (String × SectionBody) → Nat
  | [] => 0
  | (_, body) :: rest => fieldCount body + fieldCounts rest
end

end SectionBody

namespace SchemaDocument

def ofJson? : Json → Option SchemaDocument
  | .arr items => (readFields? items).map .flat
  | .obj members =>
      (SectionBody.bodiesOf? members).map fun bodies => .sectioned (Assoc.ofList bodies)
  | _ => none

def toJson : SchemaDocument → Json
  | .flat fields => .arr (fields.map FieldDescriptor.toJson)
  | .sectioned sections => .obj (SectionBody.membersOf sections)

def fieldCount : SchemaDocument → Nat
  | .flat fields => FieldDescriptor.countAll fields
  | .sectioned sections => SectionBody.fieldCounts sections

end SchemaDocument

end ContentForms

import ContentForms.Field.Kind
import ContentForms.Field.Options

/-!
Field descriptors: what a schema says about one form field. Reading is lenient. Only the `id` has
to be there and to be a string; a scalar label is taken as text and a missing one is the id, a
kind that is not a string is kept as its JSON text, and of the nested fields those are kept that
are descriptors themselves. All keys without a meaning here are carried along untouched.
-/

namespace ContentForms

structure FieldDescriptor where
  /-- The key under which the value is stored. -/
  id : String
  /-- The name of the field in messages. -/
  label : String
  kind : FieldKind
  /-- The fields of an object, of the rows of a list, or of a media value. -/
  fields : List FieldDescriptor
  options : OptionSet
  /-- The members that have no meaning here, in key order. -/
  extra : List (String × Json)

namespace FieldDescriptor

mutual
def decideEq : (a b : FieldDescriptor) → Decidable (a = b)
  | ⟨id, label, kind, fields, options, extra⟩, ⟨id', label', kind', fields', options', extra'⟩ =>
      letI := decideEqAll fields fields'
      decidable_of_iff (id = id' ∧ label = label' ∧ kind = kind' ∧ fields = fields' ∧
        options = options' ∧ extra = extra') (by simp)

def decideEqAll : (ds es : List FieldDescriptor) → Decidable (ds = es)
  | [], [] => .isTrue rfl
  | [], _ :: _ | _ :: _, [] => .isFalse (by simp)
  | d :: ds, e :: es =>
      letI := decideEq d e
      letI := decideEqAll ds es
      decidable_of_iff (d = e ∧ ds = es) (by simp)
end

instance : DecidableEq FieldDescriptor := decideEq

def knownKeys : List String :=
  ["id", "label", "type", "kind", "fields", "options"]

/-- The kind that the value under `type` or `kind` stands for. -/
def kindOf : Option Json → FieldKind
  | some (.str name) => .ofName name
  | some .null | none => .other ""
  | some value => .other value.compact

/-- The id among the members. Three faults can keep it from being read, and they are looked for in
the key order of the members: an id that is not a string, then both spellings of the kind at once,
then a missing id. -/
def idOf (members : List (String × Json)) : Except DecodeError String :=
  match Assoc.get? "id" members with
  | some (.str id) => if bothKinds then .error (.duplicateField "type") else .ok id
  | some _ => .error .wrongType
  | none => if bothKinds then .error (.duplicateField "type") else .error (.missingField "id")
where
  bothKinds : Bool := Assoc.contains "kind" members && Assoc.contains "type" members

/-- The descriptor with the given id and nested fields that the other members describe. -/
def build (id : String) (fields : List FieldDescriptor) (members : List (String × Json)) :
    FieldDescriptor where
  id := id
  label := ((Assoc.get? "label" members).bind Json.scalarText?).getD id
  kind := kindOf ((Assoc.get? "type" members).or (Assoc.get? "kind" members))
  fields := fields
  options := ((Assoc.get? "options" members).map OptionSet.ofJson).getD .empty
  extra := Assoc.ofList (members.filter fun member => !knownKeys.contains member.1)

mutual
def ofJson : Json → Except DecodeError FieldDescriptor
  | .obj members => (idOf members).map fun id => build id (nestedOf members) members
  | _ => .error .wrongType

def nestedOf : List (String × Json) → List FieldDescriptor
  | [] => []
  | (key, value) :: rest => if key = "fields" then itemsOf value else nestedOf rest

def itemsOf : Json → List FieldDescriptor
  | .arr items => keepReadable items
  | _ => []

def keepReadable : List Json → List FieldDescriptor
  | [] => []
  | item :: rest =>
      match ofJson item with
      | .ok field => field :: keepReadable rest
      | .error _ => keepReadable rest
end

def writtenOptions (options : OptionSet) : List (String × Json) :=
  if options.isEmpty && !options.multiple then [] else [("options", options.toJson)]

mutual
/-- The members as they are written: first those with a meaning, then the others. -/
def written : FieldDescriptor → List (String × Json)
  | ⟨id, label, kind, fields, options, extra⟩ =>
      [("id", .str id), ("label", .str label), ("type", .str kind.name)] ++ writtenFields fields ++
        writtenOptions options ++ extra

def writtenFields : List FieldDescriptor → List (String × Json)
  | [] => []
  | field :: rest => [("fields", .arr (.object (written field) :: writtenItems rest))]

def writtenItems : List FieldDescriptor → List Json
  | [] => []
  | field :: rest => .object (written field) :: writtenItems rest
end

def toJson (field : FieldDescriptor) : Json :=
  .obj field.written

mutual
def count : FieldDescriptor → Nat
  | ⟨_, _, _, fields, _, _⟩ => countAll fields + 1

def countAll : List FieldDescriptor → Nat
  | [] => 0
  | field :: rest => count field + countAll rest
end

end FieldDescriptor

end ContentForms

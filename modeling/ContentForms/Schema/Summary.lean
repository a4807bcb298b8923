import ContentForms.Schema.Document

/-!
The summary of a schema: one row per field, depth first, with a row of its own for every section
that is not a single field. Paths are dotted, and the fields of a list's rows stand under `[]`. A
field is nested when an object or a list encloses it; the fields of a media value are as nested as
the media field itself, and fields of any other kind have no rows for the descriptors inside them.
-/

namespace ContentForms

structure SummaryRow where
  path : String
  kind : String
  label : String
  nested : Bool
  deriving DecidableEq

namespace SummaryRow

def toJson (row : SummaryRow) : Json :=
  .obj [("path", .str row.path), ("kind", .str row.kind), ("label", .str row.label),
    ("nested", .bool row.nested)]

def ofSection (key path : String) : SummaryRow :=
  ⟨path, "section", key, false⟩

end SummaryRow

/-- The path of a key under a parent; the root has the empty path. -/
def pathUnder (parent key : String) : String :=
  if parent.isEmpty then key else parent ++ "." ++ key

namespace FieldDescriptor

mutual
def summarize : FieldDescriptor → (key parent : String) → (nested : Bool) → List SummaryRow
  | ⟨_, label, kind, fields, _, _⟩, key, parent, nested =>
      let path := pathUnder parent key
      ⟨path, kind.name, label, nested⟩ ::
        match kind with
        | .object => summarizeAll fields path true
        | .list => summarizeAll fields (path ++ ".[]") true
        | .media => summarizeAll fields path nested
        | _ => []

def summarizeAll : List FieldDescriptor → (parent : String) → (nested : Bool) → List SummaryRow
  | [], _, _ => []
  | field :: rest, parent, nested =>
      summarize field field.id parent nested ++ summarizeAll rest parent nested
end

end FieldDescriptor

namespace SectionBody

mutual
def summarize : SectionBody → (key parent : String) → List SummaryRow
  | .fieldList fields, key, parent =>
      let path := pathUnder parent key
      .ofSection key path :: FieldDescriptor.summarizeAll fields path false
  | .oneField field, key, parent => field.summarize key parent false
  | .sectionMap sections, key, parent =>
      let path := pathUnder parent key
      .ofSection key path :: summarizeAll sections path

def summarizeAll : List (String × SectionBody) → (parent : String) → List SummaryRow
  | [], _ => []
  | (key, body) :: rest, parent => summarize body key parent ++ summarizeAll rest parent
end

end SectionBody

namespace SchemaDocument

def summary : SchemaDocument → List SummaryRow
  | .flat fields => FieldDescriptor.summarizeAll fields "" false
  | .sectioned sections => SectionBody.summarizeAll sections ""

end SchemaDocument

end ContentForms

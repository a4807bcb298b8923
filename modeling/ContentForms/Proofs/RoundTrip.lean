import ContentForms.Proofs.Canonical
import ContentForms.Proofs.Compiled

/-!
Schemas are read back as they were. What a schema is written as has to be taken for the same
variant again, at every depth: a list of fields for a list, a field for a field, and a map of
sections for a map. Only the last is in danger, because an object with a text for its id is read as
a field. But no section is written as a text, so even a map with a section of the name `id` has no
id, whatever its other sections are called.
-/

namespace ContentForms

namespace FieldDescriptor

/-- A descriptor is in another one at some depth, or is that descriptor. -/
inductive Within (inner : FieldDescriptor) : FieldDescriptor → Prop
  | self : Within inner inner
  | nested {outer child : FieldDescriptor} (hmem : child ∈ outer.fields) (h : Within inner child) :
      Within inner outer

theorem Canonical.within {inner outer : FieldDescriptor} (h : outer.Canonical)
    (hin : inner.Within outer) : inner.Canonical := by
  induction hin with
  | self => exact h
  | nested hmem _ ih => exact ih (h.nested hmem)

end FieldDescriptor

/-! ### Lists of fields -/

section

variable {write : FieldDescriptor → Json}

theorem canonical_of_readFields? {items : List Json} {fields : List FieldDescriptor}
    (h : readFields? items = some fields) : ∀ field ∈ fields, field.Canonical := by
  have hreads := FieldDescriptor.readFields?_eq_some_iff.mp h
  clear h
  induction hreads with
  | nil => simp
  | @cons item field _ _ hread _ ih =>
      exact List.forall_mem_cons.mpr ⟨FieldDescriptor.canonical_of_ofJson item hread.1, ih⟩

theorem readFields?_map_write (hwrite : FieldDescriptor.Writes write)
    {fields : List FieldDescriptor} (h : ∀ field ∈ fields, field.Canonical) :
    readFields? (fields.map write) = some fields := by
  rw [FieldDescriptor.readFields?_eq_some_iff, List.forall₂_map_left_iff, List.forall₂_same]
  intro field hmem
  exact FieldDescriptor.reads_iff.mpr (FieldDescriptor.ofJson_write hwrite (h field hmem))

end

/-! ### Sections -/

namespace SectionBody

mutual
def written (write : FieldDescriptor → Json) : SectionBody → Json
  | .fieldList fields => .arr (fields.map write)
  | .oneField field => write field
  | .sectionMap sections => .obj (writtenSections write sections)

def writtenSections (write : FieldDescriptor → Json) :
    List (String × SectionBody) → List (String × Json)
  | [] => []
  | (key, body) :: rest => (key, written write body) :: writtenSections write rest
end

mutual
theorem written_toJson (body : SectionBody) :
    body.written FieldDescriptor.toJson = body.toJson := by
  match body with
  | .fieldList fields => rw [written, toJson]
  | .oneField field => rw [written, toJson]
  | .sectionMap sections => rw [written, toJson, writtenSections_toJson]

theorem writtenSections_toJson (sections : List (String × SectionBody)) :
    writtenSections FieldDescriptor.toJson sections = membersOf sections := by
  match sections with
  | [] => rw [writtenSections, membersOf]
  | (key, body) :: rest => rw [writtenSections, membersOf, written_toJson, writtenSections_toJson]
end

inductive Has (inner : FieldDescriptor) : SectionBody → Prop
  | fieldList {fields : List FieldDescriptor} {field : FieldDescriptor} (hmem : field ∈ fields)
      (h : inner.Within field) : Has inner (.fieldList fields)
  | oneField {field : FieldDescriptor} (h : inner.Within field) : Has inner (.oneField field)
  | sectionMap {sections : List (String × SectionBody)} {key : String} {body : SectionBody}
      (hmem : (key, body) ∈ sections) (h : Has inner body) : Has inner (.sectionMap sections)

/-- The one form of a body: sections in key order, and canonical descriptors. -/
inductive Canonical : SectionBody → Prop
  | fieldList {fields : List FieldDescriptor} (each : ∀ field ∈ fields, field.Canonical) :
      Canonical (.fieldList fields)
  | oneField {field : FieldDescriptor} (h : field.Canonical) : Canonical (.oneField field)
  | sectionMap {sections : List (String × SectionBody)} (ascending : Assoc.Ascending sections)
      (each : ∀ key body, (key, body) ∈ sections → Canonical body) :
      Canonical (.sectionMap sections)

theorem reading_canonical : Reading Canonical where
  fieldList := fun h => .fieldList (canonical_of_readFields? h)
  oneField := fun {value} _ h => .oneField (FieldDescriptor.canonical_of_ofJson value h)
  sectionMap := fun h => .sectionMap (Assoc.ascending_ofList _) fun key body hmem =>
    h key body (Assoc.mem_of_mem_ofList hmem)

theorem Canonical.has {body : SectionBody} {inner : FieldDescriptor} (h : body.Canonical)
    (hin : body.Has inner) : inner.Canonical := by
  induction hin with
  | fieldList hmem hin =>
      cases h with
      | fieldList each => exact (each _ hmem).within hin
  | oneField hin =>
      cases h with
      | oneField h => exact h.within hin
  | sectionMap hmem _ ih =>
      cases h with
      | sectionMap _ each => exact ih (each _ _ hmem)

/-! ### Sections that are read back -/

variable {write : FieldDescriptor → Json} {body : SectionBody}
  {sections : List (String × SectionBody)}

theorem writtenSections_eq_map (sections : List (String × SectionBody)) :
    writtenSections write sections =
      sections.map fun entry => (entry.1, entry.2.written write) := by
  induction sections with
  | nil => rw [writtenSections, List.map_nil]
  | cons entry rest ih =>
      obtain ⟨key, body⟩ := entry
      rw [writtenSections, ih, List.map_cons]

theorem text?_written (hwrite : FieldDescriptor.Writes write) (h : body.Canonical) :
    (body.written write).text? = none := by
  cases h with
  | fieldList _ => rw [written]; rfl
  | oneField h =>
      obtain ⟨members, hmembers, -⟩ := hwrite _ h
      rw [written, hmembers]
      rfl
  | sectionMap _ _ => rw [written]; rfl

theorem idText?_writtenSections (hwrite : FieldDescriptor.Writes write)
    (h : ∀ key body, (key, body) ∈ sections → body.Canonical) :
    (Json.obj (writtenSections write sections)).idText? = none := by
  have hget : Assoc.get? "id" (writtenSections write sections) =
      (Assoc.get? "id" sections).map (written write) := by
    rw [writtenSections_eq_map]
    exact Assoc.get?_map "id" (fun _ body => body.written write) sections
  show (Assoc.get? "id" (writtenSections write sections)).bind Json.text? = none
  rw [hget]
  cases hid : Assoc.get? "id" sections with
  | none => rfl
  | some body => exact text?_written hwrite (h "id" body (Assoc.mem_of_get? hid))

theorem ofJson_writtenSections (hwrite : FieldDescriptor.Writes write)
    (h : ∀ key body, (key, body) ∈ sections → body.Canonical) :
    ∃ e, FieldDescriptor.ofJson (.obj (writtenSections write sections)) = .error e := by
  cases hread : FieldDescriptor.ofJson (.obj (writtenSections write sections)) with
  | error e => exact ⟨e, rfl⟩
  | ok field =>
      have hid := (FieldDescriptor.idText?_of_ofJson hread).1
      rw [idText?_writtenSections hwrite h] at hid
      cases hid

theorem bodiesOf?_writtenSections
    (h : ∀ key body, (key, body) ∈ sections → ofJson? (body.written write) = some body) :
    bodiesOf? (writtenSections write sections) = some sections := by
  induction sections with
  | nil => rw [writtenSections, bodiesOf?]
  | cons entry rest ih =>
      obtain ⟨key, body⟩ := entry
      have hbody : ofJson? (body.written write) = some body := h key body List.mem_cons_self
      have hrest : bodiesOf? (writtenSections write rest) = some rest :=
        ih fun k b hmem => h k b (List.mem_cons_of_mem _ hmem)
      rw [writtenSections, bodiesOf?, hbody, hrest]

/-- A canonical body is read back, as the same variant at every depth. -/
theorem ofJson?_written (hwrite : FieldDescriptor.Writes write) (h : body.Canonical) :
    ofJson? (body.written write) = some body := by
  induction h with
  | fieldList each =>
      rw [written, ofJson?, readFields?_map_write hwrite each]
      rfl
  | oneField h =>
      have hread := FieldDescriptor.ofJson_write hwrite h
      obtain ⟨members, hmembers, -⟩ := hwrite _ h
      rw [hmembers] at hread
      rw [written, hmembers, ofJson?, hread]
  | sectionMap ascending each ih =>
      -- An object is tried as a field first, and only then as a map.
      obtain ⟨e, hread⟩ := ofJson_writtenSections hwrite each
      rw [written, ofJson?, hread, bodiesOf?_writtenSections ih]
      simp [Assoc.ofList_of_ascending ascending]

end SectionBody

/-! ### Documents -/

namespace SchemaDocument

variable {write : FieldDescriptor → Json} {schema : SchemaDocument}

def written (write : FieldDescriptor → Json) (schema : SchemaDocument) : Json :=
  schema.body.written write

theorem written_toJson (schema : SchemaDocument) :
    schema.written FieldDescriptor.toJson = schema.toJson := by
  rw [written, SectionBody.written_toJson]
  cases schema <;> rw [body, SectionBody.toJson, toJson]

theorem ofJson?_written (hwrite : FieldDescriptor.Writes write) (h : schema.body.Canonical) :
    ofJson? (schema.written write) = some schema := by
  cases schema with
  | flat fields =>
      cases h with
      | fieldList each =>
          rw [written, body, SectionBody.written, ofJson?, readFields?_map_write hwrite each]
          rfl
  | sectioned sections =>
      cases h with
      | sectionMap ascending each =>
          have hbodies := SectionBody.bodiesOf?_writtenSections fun key body hmem =>
            SectionBody.ofJson?_written hwrite (each key body hmem)
          rw [written, body, SectionBody.written, ofJson?, hbodies]
          simp [Assoc.ofList_of_ascending ascending]

/-- A schema that was read is written and read back as the same schema, and so is every descriptor
in it, at any depth; and in whatever order the members of its descriptors are written. -/
theorem reads_back {value : Json} (h : ofJson? value = some schema) :
    ofJson? schema.toJson = some schema ∧
      (∀ write, FieldDescriptor.Writes write → ofJson? (schema.written write) = some schema) ∧
      ∀ field, schema.body.Has field →
        FieldDescriptor.ofJson field.toJson = .ok field ∧
          ∀ write, FieldDescriptor.Writes write →
            FieldDescriptor.ofJson (write field) = .ok field := by
  have hcanonical : schema.body.Canonical := SectionBody.reading_canonical.of_document h
  refine ⟨?_, fun write hwrite => ofJson?_written hwrite hcanonical, ?_⟩
  · rw [← written_toJson]
    exact ofJson?_written FieldDescriptor.writes_toJson hcanonical
  · intro field hin
    have hfield : field.Canonical := hcanonical.has hin
    exact ⟨FieldDescriptor.ofJson_write FieldDescriptor.writes_toJson hfield,
      fun write hwrite => FieldDescriptor.ofJson_write hwrite hfield⟩

/-- Sections that are called like the keys of a field. One of them is a list with a field that is
badly written in every way that is forgiven, the other is a single field. -/
def oddSections : Json :=
  .obj [("id", .obj [
    ("kind", .arr [.obj [
      ("fields", .arr [.bool false,
        .obj [("id", .str "b"), ("options", .arr [.str "x", .null, .str "x", .num (.int 2)])]]),
      ("id", .str "a"), ("kind", .bool true), ("label", .num (.int 5)), ("note", .null)]]),
    ("type", .obj [("id", .str "c"), ("options", .obj [("multiple", .bool true)])])])]

def oddField : FieldDescriptor :=
  ⟨"b", "b", .other "", [], ⟨[.plain "x", .plain "2"], false⟩, []⟩

def oddSchema : SchemaDocument :=
  .sectioned [("id", .sectionMap [
    ("kind", .fieldList [⟨"a", "5", .other "true", [oddField], .empty, [("note", .null)]⟩]),
    ("type", .oneField ⟨"c", "c", .other "", [], .empty, []⟩)])]

theorem has_oddField : oddSchema.body.Has oddField :=
  .sectionMap List.mem_cons_self (.sectionMap List.mem_cons_self
    (.fieldList List.mem_cons_self (.nested List.mem_cons_self .self)))

/-- It is read back from what is written in the order of its records, and in key order. -/
theorem reads_back_oddSchema :
    ofJson? oddSections = some oddSchema ∧ ofJson? oddSchema.toJson = some oddSchema ∧
      ofJson? (oddSchema.written fun field => .object field.written) = some oddSchema ∧
      FieldDescriptor.ofJson oddField.toJson = .ok oddField := by
  have hread : ofJson? oddSections = some oddSchema := rfl
  obtain ⟨hback, hwritten, hfields⟩ := reads_back hread
  exact ⟨hread, hback, hwritten _ FieldDescriptor.writes_object,
    (hfields oddField has_oddField).1⟩

end SchemaDocument

end ContentForms

import ContentForms.Proofs.Sections
import ContentForms.Proofs.Strictness
import ContentForms.Schema.Summary

/-!
What the rows of a summary stand for. The outline of a schema names the parts that have a row, with
the path to each, and a summary is no more than its outline in words. Sections and fields are told
apart in it, which the words do not do, since a field may be of a kind called `section`.

A summary is also told how many fields there are in all, and this number is counted on another way:
into the nested fields of every field, whatever its kind, while only those of objects, lists and
media values have rows. So the number is that of the rows of fields as long as no other field has
nested fields of its own.
-/

namespace ContentForms

/-! ### Paths in words -/

def RuleStep.under (parent : String) : RuleStep → String
  | .member key => pathUnder parent key
  | .items => parent ++ ".[]"

/-- A path as a summary writes it. -/
def rowPath (path : List RuleStep) : String :=
  path.foldl RuleStep.under ""

@[simp] theorem rowPath_append_singleton (path : List RuleStep) (step : RuleStep) :
    rowPath (path ++ [step]) = step.under (rowPath path) := by
  rw [rowPath, List.foldl_append]
  rfl

/-! ### The outline of a schema -/

/-- A part of a schema and the path to it. -/
structure SchemaPlace where
  path : List RuleStep
  origin : Origin

namespace SchemaPlace

def key (place : SchemaPlace) : String :=
  match place.path.getLast? with
  | some (.member key) => key
  | _ => ""

def field? (place : SchemaPlace) : Option FieldDescriptor :=
  match place.origin with
  | .inside field _ => some field
  | _ => none

def row (place : SchemaPlace) : SummaryRow :=
  match place.origin with
  | .inside field enclosing =>
      ⟨rowPath place.path, field.kind.name, field.label, !onlyMedia enclosing⟩
  | _ => .ofSection place.key (rowPath place.path)

theorem path_row (place : SchemaPlace) : place.row.path = rowPath place.path := by
  unfold row
  split <;> rfl

end SchemaPlace

namespace FieldDescriptor

mutual
/-- A field to which `path` leads, and the fields below it that have rows. -/
def outline : FieldDescriptor → (path : List RuleStep) → (enclosing : List FieldDescriptor) →
    List SchemaPlace
  | ⟨id, label, kind, fields, options, extra⟩, path, enclosing =>
      let field : FieldDescriptor := ⟨id, label, kind, fields, options, extra⟩
      ⟨path, .inside field enclosing⟩ ::
        match kind with
        | .object | .media => outlineAll fields path (field :: enclosing)
        | .list => outlineAll fields (path ++ [.items]) (field :: enclosing)
        | _ => []

def outlineAll : List FieldDescriptor → (path : List RuleStep) →
    (enclosing : List FieldDescriptor) → List SchemaPlace
  | [], _, _ => []
  | field :: rest, path, enclosing =>
      outline field (path ++ [.member field.id]) enclosing ++ outlineAll rest path enclosing
end

end FieldDescriptor

namespace SectionBody

mutual
/-- The body of a section to which `path` leads, and what is below it. -/
def outline : SectionBody → (path : List RuleStep) → List SchemaPlace
  | .fieldList fields, path =>
      ⟨path, .fieldList fields⟩ :: FieldDescriptor.outlineAll fields path []
  | .oneField field, path => field.outline path []
  | .sectionMap sections, path => ⟨path, .sectionMap sections⟩ :: outlineAll sections path

def outlineAll : List (String × SectionBody) → (path : List RuleStep) → List SchemaPlace
  | [], _ => []
  | (key, body) :: rest, path => outline body (path ++ [.member key]) ++ outlineAll rest path
end

end SectionBody

def SchemaDocument.outline : SchemaDocument → List SchemaPlace
  | .flat fields => FieldDescriptor.outlineAll fields [] []
  | .sectioned sections => SectionBody.outlineAll sections []

/-! ### A summary is an outline in words -/

namespace FieldDescriptor

theorem outlineAll_eq_flatMap (fields : List FieldDescriptor) (path : List RuleStep)
    (enclosing : List FieldDescriptor) :
    outlineAll fields path enclosing =
      fields.flatMap fun field => field.outline (path ++ [.member field.id]) enclosing := by
  induction fields with
  | nil => rw [outlineAll, List.flatMap_nil]
  | cons field rest ih => rw [outlineAll, ih, List.flatMap_cons]

theorem summarizeAll_eq_flatMap (fields : List FieldDescriptor) (parent : String) (nested : Bool) :
    summarizeAll fields parent nested =
      fields.flatMap fun field => field.summarize field.id parent nested := by
  induction fields with
  | nil => rw [summarizeAll, List.flatMap_nil]
  | cons field rest ih => rw [summarizeAll, ih, List.flatMap_cons]

theorem summarizeAll_of_each {fields : List FieldDescriptor}
    (h : ∀ field ∈ fields, ∀ (path : List RuleStep) (enclosing : List FieldDescriptor),
      field.summarize field.id (rowPath path) (!onlyMedia enclosing) =
        (field.outline (path ++ [.member field.id]) enclosing).map SchemaPlace.row)
    (path : List RuleStep) (enclosing : List FieldDescriptor) :
    summarizeAll fields (rowPath path) (!onlyMedia enclosing) =
      (outlineAll fields path enclosing).map SchemaPlace.row := by
  rw [summarizeAll_eq_flatMap, outlineAll_eq_flatMap, List.map_flatMap]
  exact List.flatMap_congr fun field hmem => h field hmem path enclosing

/-- What the outline says of the fields around is what the summary hands down. -/
theorem summarize_eq_map_outline (field : FieldDescriptor) (key : String) (path : List RuleStep)
    (enclosing : List FieldDescriptor) :
    field.summarize key (rowPath path) (!onlyMedia enclosing) =
      (field.outline (path ++ [.member key]) enclosing).map SchemaPlace.row := by
  induction field using FieldDescriptor.induct generalizing key path enclosing with
  | step id label kind fields options extra ih =>
      have hbelow := summarizeAll_of_each fun field hmem => ih field hmem field.id
      -- The rows below are those under the field itself, or for a list those under its items.
      have hsame := hbelow (path ++ [.member key])
        (⟨id, label, kind, fields, options, extra⟩ :: enclosing)
      have hitems := hbelow (path ++ [.member key] ++ [.items])
        (⟨id, label, kind, fields, options, extra⟩ :: enclosing)
      rw [rowPath_append_singleton] at hsame
      rw [rowPath_append_singleton, rowPath_append_singleton] at hitems
      have hrow : SchemaPlace.row ⟨path ++ [.member key],
          .inside ⟨id, label, kind, fields, options, extra⟩ enclosing⟩ =
            ⟨pathUnder (rowPath path) key, kind.name, label, !onlyMedia enclosing⟩ := by
        rw [SchemaPlace.row, rowPath_append_singleton]
        rfl
      cases kind <;> simp only [summarize, outline, List.map_cons, hrow, List.map_nil]
      case object => exact congrArg _ hsame
      case list => exact congrArg _ hitems
      case media => exact congrArg _ hsame

theorem summarizeAll_eq_map_outline (fields : List FieldDescriptor) (path : List RuleStep)
    (enclosing : List FieldDescriptor) :
    summarizeAll fields (rowPath path) (!onlyMedia enclosing) =
      (outlineAll fields path enclosing).map SchemaPlace.row :=
  summarizeAll_of_each (fun field _ => field.summarize_eq_map_outline field.id) path enclosing

end FieldDescriptor

namespace SectionBody

theorem outlineAll_eq_flatMap (sections : List (String × SectionBody)) (path : List RuleStep) :
    outlineAll sections path =
      sections.flatMap fun entry => entry.2.outline (path ++ [.member entry.1]) := by
  induction sections with
  | nil => rw [outlineAll, List.flatMap_nil]
  | cons entry rest ih => rw [outlineAll, ih, List.flatMap_cons]

theorem summarizeAll_eq_flatMap (sections : List (String × SectionBody)) (parent : String) :
    summarizeAll sections parent =
      sections.flatMap fun entry => entry.2.summarize entry.1 parent := by
  induction sections with
  | nil => rw [summarizeAll, List.flatMap_nil]
  | cons entry rest ih => rw [summarizeAll, ih, List.flatMap_cons]

theorem row_heading (path : List RuleStep) (key : String) {origin : Origin}
    (h : ∀ field enclosing, origin ≠ .inside field enclosing) :
    SchemaPlace.row ⟨path ++ [.member key], origin⟩ =
      .ofSection key (pathUnder (rowPath path) key) := by
  have hkey : SchemaPlace.key ⟨path ++ [.member key], origin⟩ = key := by
    rw [SchemaPlace.key, List.getLast?_append]
    rfl
  cases origin with
  | inside field enclosing => exact absurd rfl (h field enclosing)
  | _ =>
      rw [SchemaPlace.row, hkey, rowPath_append_singleton]
      rfl

theorem summarize_eq_map_outline (body : SectionBody) (key : String) (path : List RuleStep) :
    body.summarize key (rowPath path) =
      (body.outline (path ++ [.member key])).map SchemaPlace.row := by
  induction body using SectionBody.induct generalizing key path with
  | fieldList fields =>
      have hfields := FieldDescriptor.summarizeAll_eq_map_outline fields (path ++ [.member key]) []
      rw [rowPath_append_singleton] at hfields
      rw [summarize, outline, List.map_cons, row_heading path key (by simp)]
      exact congrArg _ hfields
  | oneField field =>
      rw [summarize, outline]
      exact field.summarize_eq_map_outline key path []
  | sectionMap sections ih =>
      rw [summarize, outline, List.map_cons, row_heading path key (by simp),
        summarizeAll_eq_flatMap, outlineAll_eq_flatMap, List.map_flatMap]
      refine congrArg _ (List.flatMap_congr fun entry hmem => ?_)
      have hentry := ih entry hmem entry.1 (path ++ [.member key])
      rwa [rowPath_append_singleton] at hentry

end SectionBody

theorem SchemaDocument.summary_eq_map_outline (schema : SchemaDocument) :
    schema.summary = schema.outline.map SchemaPlace.row := by
  cases schema with
  | flat fields => exact FieldDescriptor.summarizeAll_eq_map_outline fields [] []
  | sectioned sections =>
      rw [summary, outline, SectionBody.summarizeAll_eq_flatMap,
        SectionBody.outlineAll_eq_flatMap, List.map_flatMap]
      exact List.flatMap_congr fun entry _ => entry.2.summarize_eq_map_outline entry.1 []

/-! ### Counting fields -/

def FieldKind.showsFields : FieldKind → Bool
  | object | list | media => true
  | _ => false

namespace FieldDescriptor

/-- How many descriptors are below a field whose kind does not show them. -/
def hiddenCount (field : FieldDescriptor) : Nat :=
  if field.kind.showsFields then 0 else countAll field.fields

theorem hiddenCount_eq_zero_iff {field : FieldDescriptor} :
    field.hiddenCount = 0 ↔ (field.kind.showsFields = false → field.fields = []) := by
  have hcount : countAll field.fields = 0 ↔ field.fields = [] := by
    cases field.fields with
    | nil => exact iff_of_true rfl rfl
    | cons inner rest =>
        obtain ⟨id, label, kind, fields, options, extra⟩ := inner
        simp [countAll, count]
  cases hshows : field.kind.showsFields <;> simp [hiddenCount, hshows, hcount]

end FieldDescriptor

/-- The number of the fields among some parts and of those that they hide. -/
def accounted (places : List SchemaPlace) : Nat :=
  ((places.filterMap SchemaPlace.field?).map fun field => field.hiddenCount + 1).sum

theorem accounted_append (places places' : List SchemaPlace) :
    accounted (places ++ places') = accounted places + accounted places' := by
  rw [accounted, List.filterMap_append, List.map_append, List.sum_append]
  rfl

theorem accounted_cons_field (path : List RuleStep) (field : FieldDescriptor)
    (enclosing : List FieldDescriptor) (places : List SchemaPlace) :
    accounted (⟨path, .inside field enclosing⟩ :: places) =
      field.hiddenCount + 1 + accounted places := rfl

namespace FieldDescriptor

theorem accounted_outlineAll_of_each {fields : List FieldDescriptor}
    (h : ∀ field ∈ fields, ∀ path enclosing, accounted (field.outline path enclosing) = field.count)
    (path : List RuleStep) (enclosing : List FieldDescriptor) :
    accounted (outlineAll fields path enclosing) = countAll fields := by
  induction fields with
  | nil =>
      rw [outlineAll, countAll]
      rfl
  | cons field rest ih =>
      obtain ⟨hfield, hrest⟩ := List.forall_mem_cons.mp h
      rw [outlineAll, accounted_append, hfield, ih hrest, countAll]

/-- Every descriptor below a field has a row or is hidden by one that has. -/
theorem accounted_outline (field : FieldDescriptor) (path : List RuleStep)
    (enclosing : List FieldDescriptor) :
    accounted (field.outline path enclosing) = field.count := by
  induction field using FieldDescriptor.induct generalizing path enclosing with
  | step id label kind fields options extra ih =>
      have hbelow := accounted_outlineAll_of_each ih
      rw [count]
      cases kind <;>
        simp only [outline, accounted_cons_field, hiddenCount, FieldKind.showsFields, hbelow]
      case object | list | media => exact Nat.add_comm _ _
      all_goals rfl

theorem accounted_outlineAll (fields : List FieldDescriptor) (path : List RuleStep)
    (enclosing : List FieldDescriptor) :
    accounted (outlineAll fields path enclosing) = countAll fields :=
  accounted_outlineAll_of_each (fun field _ => field.accounted_outline) path enclosing

end FieldDescriptor

namespace SectionBody

theorem accounted_outlineAll_of_each {sections : List (String × SectionBody)}
    (h : ∀ entry ∈ sections, ∀ path, accounted (entry.2.outline path) = entry.2.fieldCount)
    (path : List RuleStep) : accounted (outlineAll sections path) = fieldCounts sections := by
  induction sections with
  | nil =>
      rw [outlineAll, fieldCounts]
      rfl
  | cons entry rest ih =>
      obtain ⟨hentry, hrest⟩ := List.forall_mem_cons.mp h
      rw [outlineAll, accounted_append, hentry, ih hrest, fieldCounts]

theorem accounted_outline (body : SectionBody) (path : List RuleStep) :
    accounted (body.outline path) = body.fieldCount := by
  induction body using SectionBody.induct generalizing path with
  | fieldList fields =>
      rw [outline, fieldCount, ← FieldDescriptor.accounted_outlineAll fields path []]
      rfl
  | oneField field =>
      rw [outline, fieldCount]
      exact field.accounted_outline path []
  | sectionMap sections ih =>
      rw [outline, fieldCount, ← accounted_outlineAll_of_each ih path]
      rfl

end SectionBody

namespace SchemaDocument

theorem accounted_outline (schema : SchemaDocument) :
    accounted schema.outline = schema.fieldCount := by
  cases schema with
  | flat fields => exact FieldDescriptor.accounted_outlineAll fields [] []
  | sectioned sections =>
      exact SectionBody.accounted_outlineAll_of_each (fun entry _ => entry.2.accounted_outline) []

def shownFields (schema : SchemaDocument) : List FieldDescriptor :=
  schema.outline.filterMap SchemaPlace.field?

def fieldRows (schema : SchemaDocument) : List SummaryRow :=
  (schema.outline.filter fun place => place.field?.isSome).map SchemaPlace.row

def headings (schema : SchemaDocument) : List SummaryRow :=
  (schema.outline.filter fun place => !place.field?.isSome).map SchemaPlace.row

theorem length_fieldRows (schema : SchemaDocument) :
    schema.fieldRows.length = schema.shownFields.length := by
  rw [fieldRows, shownFields, List.length_map, List.length_filterMap_eq_countP,
    List.countP_eq_length_filter]

theorem summary_perm (schema : SchemaDocument) :
    schema.summary.Perm (schema.fieldRows ++ schema.headings) := by
  rw [summary_eq_map_outline, fieldRows, headings, ← List.map_append]
  exact (List.filter_append_perm _ _).symm.map _

/-- Of the rows of a summary, headings apart, there are as many as there are fields but for those
that a field of another kind than object, list and media hides. So the two numbers are the same
exactly if no field with a row hides any. -/
theorem fieldCount_eq_rows (schema : SchemaDocument) :
    schema.summary.Perm (schema.fieldRows ++ schema.headings) ∧
      schema.fieldCount =
        schema.fieldRows.length + (schema.shownFields.map FieldDescriptor.hiddenCount).sum ∧
      (schema.fieldRows.length = schema.fieldCount ↔
        ∀ field ∈ schema.shownFields, field.kind.showsFields = false → field.fields = []) := by
  have hcount : schema.fieldCount =
      schema.fieldRows.length + (schema.shownFields.map FieldDescriptor.hiddenCount).sum := by
    have hsum : accounted schema.outline =
        (schema.shownFields.map FieldDescriptor.hiddenCount).sum + schema.shownFields.length := by
      rw [accounted, List.sum_map_add, List.map_const', List.sum_replicate_nat, Nat.mul_one]
      rfl
    rw [← accounted_outline, hsum, length_fieldRows, Nat.add_comm]
  refine ⟨schema.summary_perm, hcount, ?_⟩
  have hzero : schema.fieldRows.length = schema.fieldCount ↔
      (schema.shownFields.map FieldDescriptor.hiddenCount).sum = 0 := by
    omega
  rw [hzero, List.sum_eq_zero_iff]
  simp only [List.forall_mem_map, FieldDescriptor.hiddenCount_eq_zero_iff]

def textWithField : SchemaDocument :=
  .flat [⟨"a", "a", .string, [⟨"b", "b", .string, [], .empty, []⟩], .empty, []⟩]

/-- One row, and two fields. -/
theorem fieldCount_textWithField :
    textWithField.summary = [⟨"a", "string", "a", false⟩] ∧ textWithField.fieldRows.length = 1 ∧
      textWithField.fieldCount = 2 := by
  decide

end SchemaDocument

end ContentForms

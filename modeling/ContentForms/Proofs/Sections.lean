import ContentForms.Proofs.Checking
import ContentForms.Proofs.Compiled
import Mathlib.Data.List.Forall2

/-!
A document of sections is checked section by section. Each section could as well be a schema of its
own: a list of fields is a flat schema for the object under the key, a single field is a flat schema
of one field that has the key for its id, and a map of sections is a schema of sections again. So
`SectionBody.alone` knows no rules. It runs flat schemas, one for each part of the document, and
puts their verdicts together; the rest of this module shows that the check of the whole schema says
the same. The two are compared where they meet, at the key of a section: what the check finds there
has yet to be seen from the object around it, while a separate run already speaks of that object.
-/

namespace ContentForms

/-- Induction over the bodies of sections and of the sections in them. -/
@[elab_as_elim]
theorem SectionBody.induct {motive : SectionBody → Prop}
    (fieldList : ∀ fields, motive (.fieldList fields))
    (oneField : ∀ field, motive (.oneField field))
    (sectionMap : ∀ sections, (∀ entry ∈ sections, motive entry.2) → motive (.sectionMap sections))
    (body : SectionBody) : motive body := by
  cases body with
  | fieldList fields => exact fieldList fields
  | oneField field => exact oneField field
  | sectionMap sections =>
      apply sectionMap
      intro entry hmem
      exact SectionBody.induct fieldList oneField sectionMap entry.2
termination_by sizeOf body
decreasing_by
  have hentry := List.sizeOf_lt_of_mem hmem
  rw [Prod.mk.sizeOf_spec] at hentry
  rw [SectionBody.sectionMap.sizeOf_spec]
  omega

/-! ### Separate runs -/

namespace Checked

/-- The outcome for the section under a key that has to be an object: one issue at the key if the
value is missing or no object, else what a separate run finds, from one step further out. -/
def ofObject (key : String) (run : List (String × Json) → Validation) : Option Json → Checked
  | none | some .null => ⟨none, [⟨[.key key], Fault.missing.message key⟩]⟩
  | some (.obj members) =>
      match run members with
      | .accepted value => .good (some value)
      | .rejected issues => ⟨none, issues.map (Issue.under (.key key))⟩
  | some _ => ⟨none, [⟨[.key key], Fault.wrongShape.message key⟩]⟩

/-- The outcome for one member of an object from a run on the whole object. -/
def ofMember (key : String) : Validation → Checked
  | .accepted value => .good (value.get? key)
  | .rejected issues => ⟨none, issues⟩

end Checked

/-- The verdict on an object from the outcomes for some of its members: all issues, or the object
with each of these members replaced. -/
def Validation.together (values : List (String × Json)) (outcomes : List (String × Checked)) :
    Validation :=
  .ofChecked ⟨some (.obj (outcomes.foldl store values)),
    outcomes.flatMap fun outcome => outcome.2.issues⟩

namespace Validation

variable {values : List (String × Json)} {outcomes : List (String × Checked)}

theorem issues_together :
    (together values outcomes).issues = outcomes.flatMap fun outcome => outcome.2.issues := by
  rw [together, issues_ofChecked]

theorem together_eq_accepted_iff {value : Json} :
    together values outcomes = .accepted value ↔
      (outcomes.flatMap fun outcome => outcome.2.issues) = [] ∧
        value = .obj (outcomes.foldl store values) := by
  rw [together, ofChecked_eq_accepted_iff, Option.getD_some, eq_comm (a := value)]

end Validation

namespace SectionBody

mutual
/-- The outcome for the section under a key of an object, from runs of flat schemas alone. -/
def alone : SectionBody → (key : String) → List (String × Json) → Checked
  | .fieldList fields, key, values =>
      .ofObject key (fun members => (SchemaDocument.flat fields).compile.validate (.obj members))
        (Assoc.get? key values)
  | .oneField field, key, values =>
      .ofMember key
        ((SchemaDocument.flat [{ field with id := key }]).compile.validate (.obj values))
  | .sectionMap sections, key, values =>
      .ofObject key (fun members => .together members (allAlone sections members))
        (Assoc.get? key values)

def allAlone : List (String × SectionBody) → List (String × Json) → List (String × Checked)
  | [], _ => []
  | (key, body) :: rest, values => (key, alone body key values) :: allAlone rest values
end

theorem allAlone_eq_map (sections : List (String × SectionBody)) (values : List (String × Json)) :
    allAlone sections values =
      sections.map fun entry => (entry.1, entry.2.alone entry.1 values) := by
  induction sections with
  | nil => rw [allAlone, List.map_nil]
  | cons entry rest ih => rw [allAlone, ih, List.map_cons]

theorem keys_allAlone (sections : List (String × SectionBody)) (values : List (String × Json)) :
    Assoc.keys (allAlone sections values) = Assoc.keys sections := by
  rw [allAlone_eq_map, Assoc.keys, Assoc.keys, List.map_map]
  rfl

theorem get?_allAlone (key : String) (sections : List (String × SectionBody))
    (values : List (String × Json)) :
    Assoc.get? key (allAlone sections values) =
      (Assoc.get? key sections).map fun body => body.alone key values := by
  rw [allAlone_eq_map]
  exact Assoc.get?_map key (fun id body => body.alone id values) sections

end SectionBody

namespace Checked

/-! ### Outcomes from one step further out -/

/-- The outcome for a member as the object around it sees it: the issues are those of the member,
under its key, and without any the value is the same. -/
structure SeenUnder (key : String) (inner outer : Checked) : Prop where
  issues : outer.issues = inner.issues.map (Issue.under (.key key))
  value : inner.issues = [] → outer.value = inner.value

end Checked

namespace Validation

theorem ofChecked_congr {a b : Checked} (hissues : a.issues = b.issues)
    (hvalue : b.issues = [] → a.value = b.value) : ofChecked a = ofChecked b := by
  unfold ofChecked
  rw [hissues]
  split
  · next hnone => rw [hvalue (List.isEmpty_iff.mp hnone)]
  · rfl

/-- The run of a schema on an object that has to be there is the check of a required record. -/
theorem seenUnder_ofObject (key : String) (members : List (String × Rule)) (input : Option Json) :
    Checked.SeenUnder key (check (.record key members true) input)
      (.ofObject key (fun values => CompiledSchema.validate ⟨members⟩ (.obj values)) input) := by
  rw [check_record]
  match input with
  | none | some .null =>
      -- Missing is missing on both sides, also where the key stands there with `null`.
      exact ⟨rfl, fun h => absurd h (List.cons_ne_nil _ _)⟩
  | some (.obj values) =>
      simp only [Checked.ofObject, validate_obj, checkObject_obj, ofChecked, List.isEmpty_iff]
      by_cases hnone : (closeRecord values (checkMembers members values)).issues = []
      · simp only [hnone, if_true]
        exact ⟨by rw [hnone]; rfl, fun _ => rfl⟩
      · simp only [hnone, if_false]
        exact ⟨rfl, fun h => absurd h hnone⟩
  | some (.bool _) | some (.num _) | some (.str _) | some (.arr _) =>
      exact ⟨rfl, fun h => absurd h (List.cons_ne_nil _ _)⟩

theorem seenUnder_ofMember (key : String) (rule : Rule) (values : List (String × Json)) :
    Checked.SeenUnder key (check rule (Assoc.get? key values))
      (.ofMember key (CompiledSchema.validate ⟨[(key, rule)]⟩ (.obj values))) := by
  have hissues : (closeRecord values (checkMembers [(key, rule)] values)).issues =
      (check rule (Assoc.get? key values)).issues.map (Issue.under (.key key)) := by
    simp [closeRecord, checkMembers]
  rw [validate_obj, ofChecked, hissues]
  by_cases hnone : (check rule (Assoc.get? key values)).issues = []
  · refine ⟨?_, fun _ => ?_⟩
    · rw [hnone]
      rfl
    · rw [hnone]
      show Assoc.get? key (store values (key, check rule (Assoc.get? key values))) = _
      exact get?_store_self (key, check rule (Assoc.get? key values)) values
  · refine ⟨?_, fun h => absurd h hnone⟩
    simp [Checked.ofMember, hnone]

/-- Outcomes for the same members, on one side from their rules and on the other as the object
around them sees them. -/
def SeenMembers (inner outer : List (String × Checked)) : Prop :=
  List.Forall₂ (fun a b => a.1 = b.1 ∧ Checked.SeenUnder a.1 a.2 b.2) inner outer

theorem SeenMembers.issues {inner outer : List (String × Checked)} (h : SeenMembers inner outer)
    (values : List (String × Json)) :
    (closeRecord values inner).issues = outer.flatMap fun entry => entry.2.issues := by
  show (inner.flatMap fun entry => entry.2.issues.map (Issue.under (.key entry.1))) = _
  induction h with
  | nil => rfl
  | cons hfirst _ ih => rw [List.flatMap_cons, List.flatMap_cons, ih, hfirst.2.issues]

theorem SeenMembers.foldl_store {inner outer : List (String × Checked)}
    (h : SeenMembers inner outer) (hissues : ∀ entry ∈ inner, entry.2.issues = [])
    (values : List (String × Json)) : inner.foldl store values = outer.foldl store values := by
  induction h generalizing values with
  | nil => rfl
  | @cons a b _ _ hfirst _ ih =>
      obtain ⟨hnone, hrest⟩ := List.forall_mem_cons.mp hissues
      have hstore : store values a = store values b := by
        rw [store, store, hfirst.1, hfirst.2.value hnone]
      rw [List.foldl_cons, List.foldl_cons, hstore, ih hrest]

theorem SeenMembers.ofChecked_closeRecord {inner outer : List (String × Checked)}
    (h : SeenMembers inner outer) (values : List (String × Json)) :
    ofChecked (closeRecord values inner) = together values outer := by
  apply ofChecked_congr (h.issues values)
  intro hnone
  have hissues : (closeRecord values inner).issues = [] := (h.issues values).trans hnone
  have heach : ∀ entry ∈ inner, entry.2.issues = [] := by
    simpa [closeRecord] using hissues
  show some (Json.obj (inner.foldl store values)) = some (Json.obj (outer.foldl store values))
  rw [h.foldl_store heach]

end Validation

/-! ### Sections -/

namespace Rule

theorem ofField_rekey (field : FieldDescriptor) (key : String) (nested : Bool) :
    ofField { field with id := key } nested = ofField field nested := by
  cases field
  simp only [ofField]

theorem ofSiblings_singleton (field : FieldDescriptor) (nested : Bool) :
    ofSiblings [field] nested = [(field.id, ofField field nested)] := by
  rw [ofSiblings, ofFields, ofFields]
  rfl

end Rule

namespace SectionBody

open Validation

/-- The step of the induction below: sections that are each seen alike give a map of sections the
same verdict. -/
theorem validate_eq_together {sections : List (String × SectionBody)}
    (h : ∀ entry ∈ sections, ∀ values, Checked.SeenUnder entry.1
      (check (Rule.ofBody entry.2 entry.1) (Assoc.get? entry.1 values))
      (entry.2.alone entry.1 values))
    (values : List (String × Json)) :
    (SchemaDocument.sectioned sections).compile.validate (.obj values) =
      together values (allAlone sections values) := by
  rw [SchemaDocument.compile, validate_obj]
  apply SeenMembers.ofChecked_closeRecord
  rw [SeenMembers, checkMembers_eq_map, Rule.ofBodies_eq_map, allAlone_eq_map, List.map_map,
    List.forall₂_map_left_iff, List.forall₂_map_right_iff, List.forall₂_same]
  exact fun entry hmem => ⟨rfl, h entry hmem values⟩

theorem seenUnder_alone (body : SectionBody) (key : String) (values : List (String × Json)) :
    Checked.SeenUnder key (check (Rule.ofBody body key) (Assoc.get? key values))
      (body.alone key values) := by
  induction body using SectionBody.induct generalizing key values with
  | fieldList fields =>
      rw [Rule.ofBody, alone]
      exact seenUnder_ofObject key (Rule.ofSiblings fields false) _
  | oneField field =>
      rw [Rule.ofBody, alone, SchemaDocument.compile, CompiledSchema.ofFields,
        Rule.ofSiblings_singleton, Rule.ofField_rekey]
      exact seenUnder_ofMember key (Rule.ofField field false) values
  | sectionMap sections ih =>
      -- The verdict on the map inside is that of a schema of its own, so the map is a record again.
      have hrun : (fun members => together members (allAlone sections members)) = fun members =>
          (SchemaDocument.sectioned sections).compile.validate (.obj members) := by
        funext members
        exact (validate_eq_together (fun entry hmem => ih entry hmem entry.1) members).symm
      rw [Rule.ofBody, alone, hrun]
      exact seenUnder_ofObject key (Rule.ofBodies sections) _

end SectionBody

namespace SchemaDocument

/-- A document of sections gets the verdict that the runs of its sections give together: their
issues in the order of the keys, or else the document in which every section is what its own run
stores and the rest is what it was. -/
theorem validate_sectioned {sections : List (String × SectionBody)}
    (hsorted : Assoc.Ascending sections) (values : List (String × Json)) :
    (sectioned sections).compile.validate (.obj values) =
        .together values (SectionBody.allAlone sections values) ∧
      ((sectioned sections).compile.validate (.obj values)).issues =
        sections.flatMap (fun entry => (entry.2.alone entry.1 values).issues) ∧
      ∀ value, (sectioned sections).compile.validate (.obj values) = .accepted value →
        ∃ members, value = .obj members ∧ ∀ key, Assoc.get? key members =
          match Assoc.get? key sections with
          | some body => (body.alone key values).value
          | none => Assoc.get? key values := by
  have htogether := SectionBody.validate_eq_together
    (fun entry (_ : entry ∈ sections) values => entry.2.seenUnder_alone entry.1 values) values
  refine ⟨htogether, ?_, fun value haccepted => ?_⟩
  · rw [htogether, Validation.issues_together, SectionBody.allAlone_eq_map, List.flatMap_map]
  · obtain ⟨-, rfl⟩ := Validation.together_eq_accepted_iff.mp (htogether.symm.trans haccepted)
    refine ⟨_, rfl, fun key => ?_⟩
    have hdistinct : (Assoc.keys (SectionBody.allAlone sections values)).Nodup := by
      rw [SectionBody.keys_allAlone]
      exact hsorted.nodup_keys
    rw [Validation.get?_foldl_store hdistinct, SectionBody.get?_allAlone]
    cases Assoc.get? key sections <;> rfl

def pageSections : List (String × SectionBody) :=
  [("meta", .fieldList [⟨"title", "Título", .string, [], .empty, []⟩,
      ⟨"order", "Orden", .number, [], .empty, []⟩]),
    ("navigation", .oneField ⟨"menu", "Menú", .list,
      [⟨"href", "Enlace", .url, [], .empty, []⟩], .empty, []⟩),
    ("sections", .sectionMap [
      ("about", .fieldList [⟨"body", "Texto", .richText, [], .empty, []⟩]),
      ("welcome", .fieldList [⟨"heading", "Encabezado", .string, [], .empty, []⟩])])]

/-- Half filled in, the page has one issue for a section inside that is missing and one below
another; filled in, it is stored with its order as a number and with an empty menu. -/
theorem validate_sectioned_page :
    let top : Json := .obj [("order", .str "3"), ("title", .str "Inicio")]
    let half : List (String × Json) :=
      [("meta", top), ("sections", .obj [("welcome", .obj [("heading", .str "")])])]
    let whole : List (String × Json) :=
      [("draft", .bool true), ("meta", top), ("sections", .obj [
        ("about", .obj [("body", .str "<p>Somos</p>")]),
        ("welcome", .obj [("heading", .str "Hola")])])]
    Assoc.Ascending pageSections ∧
      pageSections.flatMap (fun entry => (entry.2.alone entry.1 half).issues) =
        [⟨[.key "sections", .key "about"], "about es requerido"⟩,
          ⟨[.key "sections", .key "welcome", .key "heading"], "Encabezado es requerido"⟩] ∧
      ((sectioned pageSections).compile.validate (.obj half)).issues =
        pageSections.flatMap (fun entry => (entry.2.alone entry.1 half).issues) ∧
      ∃ members, (sectioned pageSections).compile.validate (.obj whole) =
          .accepted (.obj members) ∧
        Assoc.get? "navigation" members = some (.arr []) ∧
        Assoc.get? "meta" members =
          some (.obj [("order", .num (.int 3)), ("title", .str "Inicio")]) ∧
        Assoc.get? "draft" members = some (.bool true) := by
  intro top half whole
  have hsorted : Assoc.Ascending pageSections := by decide +kernel
  refine ⟨hsorted, by decide +kernel, (validate_sectioned hsorted half).2.1, ?_⟩
  have haccepted : ((sectioned pageSections).compile.validate (.obj whole)).isAccepted := by
    decide +kernel
  cases hrun : (sectioned pageSections).compile.validate (.obj whole) with
  | rejected issues =>
      rw [hrun] at haccepted
      cases haccepted
  | accepted value =>
      obtain ⟨members, rfl, hmembers⟩ := (validate_sectioned hsorted whole).2.2 value hrun
      refine ⟨members, rfl, (hmembers "navigation").trans ?_, (hmembers "meta").trans ?_,
        (hmembers "draft").trans ?_⟩ <;> decide +kernel

end SchemaDocument

end ContentForms

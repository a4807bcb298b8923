import ContentForms.Proofs.Checking
import ContentForms.Proofs.Compiled
import Mathlib.Data.List.Basic

/-!
What is there for show never decides anything. Labels, the labels of options and members without a
meaning are there for those who fill in a form, and whether a text has one line or many matters to
them alone. A field without all of this is `bare`. The check of a field and that of its bare form
give the same value, and find fault with the same places in the same order; all that a label gets
into is the message of an issue. So two schemas with the same bare fields give one verdict.

An outcome is compared as `wordless`, without its messages, and where outcomes are put together to
that for an object or a list, what comes out without messages depends on nothing but what went in
without them.
-/

namespace ContentForms

/-! ### Bare fields -/

def FieldKind.bare : FieldKind → FieldKind
  | .text | .richText => .string
  | kind => kind

def OptionSet.bare (options : OptionSet) : OptionSet :=
  ⟨options.values.map fun option => .plain option.value, options.multiple⟩

@[simp] theorem OptionSet.isEmpty_bare (options : OptionSet) :
    options.bare.isEmpty = options.isEmpty := by
  simp [bare, isEmpty]

@[simp] theorem OptionSet.allowed_bare (options : OptionSet) :
    options.bare.allowed = options.allowed := by
  simp [bare, allowed, SelectOption.plain]

namespace FieldDescriptor

mutual
/-- The field without labels and other members for show, and so are the fields in it. -/
def bare : FieldDescriptor → FieldDescriptor
  | ⟨id, _, kind, fields, options, _⟩ => ⟨id, "", kind.bare, bareAll fields, options.bare, []⟩

def bareAll : List FieldDescriptor → List FieldDescriptor
  | [] => []
  | field :: rest => bare field :: bareAll rest
end

theorem bareAll_eq_map (fields : List FieldDescriptor) : bareAll fields = fields.map bare := by
  induction fields with
  | nil => rw [bareAll, List.map_nil]
  | cons field rest ih => rw [bareAll, ih, List.map_cons]

@[simp] theorem isEmpty_bareAll (fields : List FieldDescriptor) :
    (bareAll fields).isEmpty = fields.isEmpty := by
  rw [bareAll_eq_map, List.isEmpty_map]

@[simp] theorem id_bare (field : FieldDescriptor) : field.bare.id = field.id := by
  cases field
  simp only [bare]

end FieldDescriptor

theorem Rule.ofSiblings_bareAll (fields : List FieldDescriptor) (nested : Bool) :
    ofSiblings (FieldDescriptor.bareAll fields) nested =
      (Assoc.firsts (fields.map fun field => (field.id, field))).map fun entry =>
        (entry.1, ofField entry.2.bare nested) := by
  have hentries : ((FieldDescriptor.bareAll fields).map fun field => (field.id, field)) =
      (fields.map fun field => (field.id, field)).map fun entry => (entry.1, entry.2.bare) := by
    simp [FieldDescriptor.bareAll_eq_map]
  rw [ofSiblings_eq_map, hentries, Assoc.firsts_map_snd, List.map_map]
  rfl

/-! ### Outcomes without messages -/

theorem Issue.locations_under (step : Step) (issues : List Issue) :
    (issues.map (Issue.under step)).map Issue.location =
      (issues.map Issue.location).map fun location => step :: location := by
  simp [Issue.under]

namespace Checked

/-- The value of an outcome, and where its issues are. -/
def wordless (outcome : Checked) : Option Json × List Location :=
  (outcome.value, outcome.issues.map Issue.location)

theorem wordless_eq_iff {a b : Checked} : a.wordless = b.wordless ↔
    a.value = b.value ∧ a.issues.map Issue.location = b.issues.map Issue.location := by
  rw [wordless, wordless, Prod.mk.injEq]

/-- A fault is at the same place under any label, and whatever it is. -/
theorem wordless_fault (label label' : String) (f f' : Fault) (value : Option Json) :
    (fault label f value).wordless = (fault label' f' value).wordless := rfl

end Checked

open Checked

namespace Validation

variable (label label' : String)

theorem wordless_checkMissing (required : Bool) (input : Option Json) :
    (checkMissing label required input).wordless =
      (checkMissing label' required input).wordless := by
  cases required <;> rfl

theorem wordless_checkText (format : TextFormat) (required : Bool) (input : Option Json) :
    (checkText label format required input).wordless =
      (checkText label' format required input).wordless := by
  unfold checkText
  split
  · exact wordless_checkMissing label label' required input
  · split
    · split
      · split
        · exact wordless_fault label label' _ _ _
        · rfl
      · split
        · rfl
        · exact wordless_fault label label' _ _ _
    · exact wordless_fault label label' _ _ _

theorem wordless_checkNumber (input : Option Json) :
    (checkNumber label input).wordless = (checkNumber label' input).wordless := by
  unfold checkNumber
  split
  · exact wordless_checkMissing label label' true input
  · split
    · rfl
    · split
      · rfl
      · exact wordless_fault label label' _ _ _
    · exact wordless_fault label label' _ _ _

theorem wordless_checkOne (allowed : List String) (required : Bool) (input : Option Json) :
    (checkOne label allowed required input).wordless =
      (checkOne label' allowed required input).wordless := by
  unfold checkOne
  split
  · exact wordless_checkMissing label label' required input
  · split
    · split
      · rfl
      · exact wordless_fault label label' _ _ _
    · exact wordless_fault label label' _ _ _

theorem wordless_checkMany (allowed : List String) (required : Bool) (input : Option Json) :
    (checkMany label allowed required input).wordless =
      (checkMany label' allowed required input).wordless := by
  unfold checkMany
  split
  · cases required
    · rfl
    · exact wordless_fault label label' _ _ _
  · split
    · split
      · exact wordless_fault label label' _ _ _
      · dsimp only
        split
        · rfl
        · exact wordless_fault label label' _ _ _
    · exact wordless_fault label label' _ _ _

variable {label label'}

theorem wordless_closeRecord {α : Type} {entries : List (String × α)} {f g : String × α → Checked}
    (h : ∀ entry ∈ entries, (f entry).wordless = (g entry).wordless)
    (values : List (String × Json)) :
    (closeRecord values (entries.map fun entry => (entry.1, f entry))).wordless =
      (closeRecord values (entries.map fun entry => (entry.1, g entry))).wordless := by
  rw [wordless_eq_iff]
  constructor
  · simp only [closeRecord, List.foldl_map]
    refine congrArg (fun members => some (Json.obj members)) (List.foldl_ext _ _ _ ?_)
    intro members entry hmem
    rw [store, store, (wordless_eq_iff.mp (h entry hmem)).1]
  · simp only [closeRecord, List.flatMap_map, List.map_flatMap, Issue.locations_under]
    refine List.flatMap_congr fun entry hmem => ?_
    rw [(wordless_eq_iff.mp (h entry hmem)).2]

theorem wordless_closeList {f g : Json → Checked}
    (h : ∀ item, (f item).wordless = (g item).wordless) (items : List Json) :
    (closeList (items.map fun item => (item, f item))).wordless =
      (closeList (items.map fun item => (item, g item))).wordless := by
  rw [wordless_eq_iff]
  constructor
  · simp only [closeList, List.map_map]
    refine congrArg (fun items => some (Json.arr items)) (List.map_congr_left fun item _ => ?_)
    show (f item).value.getD item = (g item).value.getD item
    rw [(wordless_eq_iff.mp (h item)).1]
  · simp only [closeList, List.zipIdx_map, List.flatMap_map, List.map_flatMap,
      Issue.locations_under]
    refine List.flatMap_congr fun entry _ => ?_
    exact congrArg (List.map fun location => Step.index entry.2 :: location)
      (wordless_eq_iff.mp (h entry.1)).2

/-! ### Fields -/

section Siblings

variable {fields : List FieldDescriptor} {nested : Bool}

theorem wordless_closeRecord_ofSiblings
    (h : ∀ field ∈ fields, ∀ input, (check (Rule.ofField field nested) input).wordless =
      (check (Rule.ofField field.bare nested) input).wordless) (values : List (String × Json)) :
    (closeRecord values (checkMembers (Rule.ofSiblings fields nested) values)).wordless =
      (closeRecord values (checkMembers
        (Rule.ofSiblings (FieldDescriptor.bareAll fields) nested) values)).wordless := by
  rw [checkMembers_eq_map, checkMembers_eq_map, Rule.ofSiblings_eq_map, Rule.ofSiblings_bareAll,
    List.map_map, List.map_map]
  refine wordless_closeRecord (fun entry hmem => ?_) values
  obtain ⟨field, hfield, rfl⟩ := List.mem_map.mp (Assoc.mem_of_mem_firsts hmem)
  exact h field hfield _

theorem wordless_checkObject_ofSiblings
    (h : ∀ field ∈ fields, ∀ input, (check (Rule.ofField field nested) input).wordless =
      (check (Rule.ofField field.bare nested) input).wordless) (required : Bool)
    (input : Option Json) :
    (checkObject label (Rule.ofSiblings fields nested) required input).wordless =
      (checkObject label' (Rule.ofSiblings (FieldDescriptor.bareAll fields) nested) required
        input).wordless :=
  related_checkObject (R := fun a b => a.wordless = b.wordless)
    (wordless_checkMissing label label' required) (wordless_closeRecord_ofSiblings h)
    (wordless_fault label label' _ _ _) input

end Siblings

theorem wordless_ofOptions (options : OptionSet) (nested : Bool) (input : Option Json) :
    (check (Rule.ofOptions label options nested) input).wordless =
      (check (Rule.ofOptions label' options.bare nested) input).wordless := by
  rw [Rule.ofOptions, Rule.ofOptions, OptionSet.isEmpty_bare, OptionSet.allowed_bare]
  split
  · exact wordless_checkText label label' .plain false input
  · rw [check, check]
    show _ = Checked.wordless (if options.multiple then _ else _)
    split
    · exact wordless_checkMany label label' options.allowed (!nested) input
    · exact wordless_checkOne label label' options.allowed (!nested) input

/-- A field and its bare form find fault with the same places, and give the same value. -/
theorem wordless_ofField (field : FieldDescriptor) (nested : Bool) (input : Option Json) :
    (check (Rule.ofField field nested) input).wordless =
      (check (Rule.ofField field.bare nested) input).wordless := by
  induction field using FieldDescriptor.induct generalizing nested input with
  | step id label kind fields options extra ih =>
      cases kind <;>
        simp only [FieldDescriptor.bare, FieldKind.bare, Rule.ofField,
          FieldDescriptor.isEmpty_bareAll]
      case string | text | richText | url | image =>
        rw [check, check]
        exact wordless_checkText label "" _ (!nested) input
      case number =>
        rw [check, check]
        exact wordless_checkNumber label "" input
      case select => exact wordless_ofOptions options nested input
      case object =>
        rw [check_record, check_record]
        exact wordless_checkObject_ofSiblings (fun field hmem => ih field hmem true) (!nested) input
      case list =>
        split
        · refine related_check_list (R := fun a b => a.wordless = b.wordless) rfl (fun items => ?_)
            (wordless_fault label "" _ _ _) input
          rw [check_anyItems_arr, check_anyItems_arr]
        · refine related_check_list (R := fun a b => a.wordless = b.wordless) rfl (fun items => ?_)
            (wordless_fault label "" _ _ _) input
          rw [check_items_arr, check_items_arr]
          refine wordless_closeList (fun item => ?_) items
          rw [check_record, check_record]
          exact wordless_checkObject_ofSiblings (fun field hmem => ih field hmem true) true _
      case media =>
        split
        · rw [check_media, check_media]
          exact related_checkObject (R := fun a b => a.wordless = b.wordless)
            (wordless_checkMissing label "" (!nested)) (fun _ => rfl)
            (wordless_fault label "" _ _ _) input
        · rw [check_media, check_media]
          exact wordless_checkObject_ofSiblings (fun field hmem => ih field hmem nested) (!nested)
            input
      case other => exact wordless_checkText label "" .plain false input

/-! ### Whole documents -/

/-- Outcomes that are the same without messages accept the same value, or have issues at the same
places. -/
theorem verdict_of_wordless {a b : Checked} (h : a.wordless = b.wordless) :
    (∀ value, ofChecked a = .accepted value ↔ ofChecked b = .accepted value) ∧
      (ofChecked a).issues.map Issue.location = (ofChecked b).issues.map Issue.location := by
  obtain ⟨hvalue, hlocations⟩ := wordless_eq_iff.mp h
  have hnone : a.issues = [] ↔ b.issues = [] := by
    rw [← List.map_eq_nil_iff (f := Issue.location), hlocations, List.map_eq_nil_iff]
  refine ⟨ofChecked_eq_accepted_congr hnone fun _ => hvalue, ?_⟩
  rw [issues_ofChecked, issues_ofChecked, hlocations]

end Validation

open Validation

namespace CompiledSchema

theorem verdict_of_wordless {schema schema' : CompiledSchema} {document : Json}
    (h : (check schema.root (some document)).wordless =
      (check schema'.root (some document)).wordless) :
    (∀ value, schema.validate document = .accepted value ↔
        schema'.validate document = .accepted value) ∧
      (schema.validate document).issues.map Issue.location =
        (schema'.validate document).issues.map Issue.location := by
  rw [validate, validate]
  split
  · exact Validation.verdict_of_wordless h
  · exact ⟨fun _ => .rfl, rfl⟩

variable {fields fields' : List FieldDescriptor}

theorem wordless_root (fields : List FieldDescriptor) (input : Option Json) :
    (check (ofFields fields).root input).wordless =
      (check (ofFields (fields.map FieldDescriptor.bare)).root input).wordless := by
  rw [root, root, check_record, check_record, ofFields, ofFields, ← FieldDescriptor.bareAll_eq_map]
  exact wordless_checkObject_ofSiblings (fun field _ => wordless_ofField field false) true input

/-- Two lists of fields that have the same bare form give every document the same verdict: both
accept it and store the same value for it, or both find fault with the same places, in the same
order. -/
theorem presentation_is_inert
    (h : fields.map FieldDescriptor.bare = fields'.map FieldDescriptor.bare) (document : Json) :
    ((ofFields fields).validate document).isAccepted =
        ((ofFields fields').validate document).isAccepted ∧
      (∀ value, (ofFields fields).validate document = .accepted value ↔
        (ofFields fields').validate document = .accepted value) ∧
      ((ofFields fields).validate document).issues.map Issue.location =
        ((ofFields fields').validate document).issues.map Issue.location := by
  have hroot : (check (ofFields fields).root (some document)).wordless =
      (check (ofFields fields').root (some document)).wordless := by
    rw [wordless_root fields, h, ← wordless_root fields']
  obtain ⟨hvalue, hlocations⟩ := verdict_of_wordless hroot
  refine ⟨?_, hvalue, hlocations⟩
  rw [Bool.eq_iff_iff, isAccepted_iff, isAccepted_iff, ← List.map_eq_nil_iff (f := Issue.location),
    hlocations, List.map_eq_nil_iff]

/-- A page without anything for show: a title, and links of two kinds. -/
def plainPage : List FieldDescriptor :=
  [⟨"title", "title", .string, [], .empty, []⟩,
    ⟨"links", "links", .list, [⟨"text", "text", .string, [], .empty, []⟩,
      ⟨"open", "open", .select, [], ⟨[.plain "here", .plain "new"], false⟩, []⟩,
      ⟨"weight", "weight", .number, [], .empty, []⟩], .empty, []⟩]

def shownPage : List FieldDescriptor :=
  [⟨"title", "Título", .richText, [], .empty, [("hint", .str "Hasta 60 letras")]⟩,
    ⟨"links", "Enlaces", .list, [⟨"text", "Texto", .text, [], .empty, [("rows", .num (.int 3))]⟩,
      ⟨"open", "Abrir", .select, [], ⟨[⟨"here", "Aquí"⟩, ⟨"new", "En otra pestaña"⟩], false⟩, []⟩,
      ⟨"weight", "Peso", .number, [], .empty, []⟩], .empty, []⟩]

/-- A blank title and an unknown kind of link are found by both, in different words, and a filled in
page is stored alike by both. -/
theorem presentation_is_inert_page :
    let blank : Json := .obj [("links", .arr [.obj [("open", .str "Aquí"), ("weight", .str "1")]])]
    let filled : Json := .obj
      [("links", .arr [.obj [("open", .str "here"), ("weight", .str "1")]]), ("title", .str "Mar")]
    let stored : Json := .obj
      [("links", .arr [.obj [("open", .str "here"), ("weight", .num (.int 1))]]),
        ("title", .str "Mar")]
    plainPage.map FieldDescriptor.bare = shownPage.map FieldDescriptor.bare ∧
      ((ofFields plainPage).validate blank).issues =
        [⟨[.key "title"], "title es requerido"⟩,
          ⟨[.key "links", .index 0, .key "open"], "open debe ser una de las opciones: here, new"⟩] ∧
      ((ofFields shownPage).validate blank).issues.map Issue.location =
        [[.key "title"], [.key "links", .index 0, .key "open"]] ∧
      (ofFields plainPage).validate filled = .accepted stored ∧
      (ofFields shownPage).validate filled = .accepted stored := by
  intro blank filled stored
  have hbare : plainPage.map FieldDescriptor.bare = shownPage.map FieldDescriptor.bare := by
    decide +kernel
  have hblank : ((ofFields plainPage).validate blank).issues =
      [⟨[.key "title"], "title es requerido"⟩, ⟨[.key "links", .index 0, .key "open"],
        "open debe ser una de las opciones: here, new"⟩] := by
    decide +kernel
  have hfilled : (ofFields plainPage).validate filled = .accepted stored := by decide +kernel
  obtain ⟨-, -, hlocations⟩ := presentation_is_inert hbare blank
  obtain ⟨-, hvalue, -⟩ := presentation_is_inert hbare filled
  refine ⟨hbare, hblank, ?_, hfilled, (hvalue stored).mp hfilled⟩
  rw [← hlocations, hblank]
  rfl

end CompiledSchema

end ContentForms

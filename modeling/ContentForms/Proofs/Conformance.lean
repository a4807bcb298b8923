import ContentForms.Proofs.Checking
import ContentForms.Proofs.Compiled

/-!
What a document has to be like to be accepted, said of the descriptors and not of the rules that
they compile to. `Holds` goes over the eleven kinds of field. Nested in an object or a list, a field
may be missing or left blank where it has to be filled in at the top; the fields of an object or
a list are nested, those of a media value are as nested as the media field itself. Numbers stand
apart: a number may not be missing anywhere.

The main statement is that a schema accepts exactly the objects in which the first field of each id
holds. So siblings after the first of an id count for nothing, and neither do members without a
field.
-/

namespace ContentForms

def IsMissing (input : Option Json) : Prop :=
  input = none ∨ input = some .null

def IsBlank (input : Option Json) : Prop :=
  IsMissing input ∨ input = some (.str "")

def HoldsText (test : String → Prop) (nested : Bool) (input : Option Json) : Prop :=
  (nested ∧ IsBlank input) ∨ ∃ s, input = some (.str s) ∧ s ≠ "" ∧ test s

def HoldsAnyText (input : Option Json) : Prop :=
  IsMissing input ∨ ∃ s, input = some (.str s)

/-- A number, or a text that reads as a finite one when it is trimmed. -/
def HoldsNumber (input : Option Json) : Prop :=
  (∃ n, input = some (.num n)) ∨
    ∃ s x, input = some (.str s) ∧ Binary64.readLiteral? (Text.trimChars s.toList) = some x

/-- One of the options, or a list of them; any text where there are no options. -/
def HoldsChoice (options : OptionSet) (nested : Bool) (input : Option Json) : Prop :=
  if options.values = [] then HoldsAnyText input
  else if options.multiple then
    (nested ∧ IsMissing input) ∨ ∃ items, input = some (.arr items) ∧ (items = [] → nested) ∧
      ∀ item ∈ items, ∃ s ∈ options.allowed, item = .str s
  else (nested ∧ IsBlank input) ∨ ∃ s ∈ options.allowed, input = some (.str s)

mutual
/-- What a field asks of the value under its id, at the top or nested. -/
def FieldDescriptor.Holds : FieldDescriptor → (nested : Bool) → Option Json → Prop
  | ⟨_, _, kind, fields, options, _⟩, nested, input =>
      match kind with
      | .string | .text | .richText => HoldsText (fun _ => True) nested input
      | .url => HoldsText (fun s => Link.isLink s) nested input
      | .image => HoldsText (fun s => Link.isAbsoluteUrl s) nested input
      | .number => HoldsNumber input
      | .select => HoldsChoice options nested input
      | .object => (nested ∧ IsMissing input) ∨
          ∃ values, input = some (.obj values) ∧ FieldDescriptor.AllHold fields true values
      | .list => IsMissing input ∨ ∃ items, input = some (.arr items) ∧
          (fields ≠ [] → ∀ item ∈ items, ∃ values, item = .obj values ∧
            FieldDescriptor.AllHold fields true values)
      | .media => (nested ∧ IsMissing input) ∨ ∃ values, input = some (.obj values) ∧
          if fields = [] then
            HoldsText (fun _ => True) false (Assoc.get? "type" values) ∧
              HoldsText (fun s => Link.isAbsoluteUrl s) false (Assoc.get? "link" values)
          else FieldDescriptor.AllHold fields nested values
      | .other _ => HoldsAnyText input
termination_by field => sizeOf field
decreasing_by all_goals simp_wf; omega

/-- The first field of each id holds of the member under that id. -/
def FieldDescriptor.AllHold (fields : List FieldDescriptor) (nested : Bool)
    (values : List (String × Json)) : Prop :=
  ∀ id field, (_h : fields.find? (fun field => field.id = id) = some field) →
    FieldDescriptor.Holds field nested (Assoc.get? id values)
termination_by sizeOf fields
decreasing_by exact List.sizeOf_lt_of_mem (List.mem_of_find?_eq_some _h)
end

namespace Validation

theorem isMissing_iff_isMissing {input : Option Json} : isMissing input ↔ IsMissing input :=
  isMissing_iff

/-! ### Fields without fields of their own -/

theorem checkText_issues_eq_nil_iff (label : String) (format : TextFormat) (nested : Bool)
    (input : Option Json) :
    (checkText label format (!nested) input).issues = [] ↔
      HoldsText (fun s => formatFault? format s = none) nested input := by
  match input with
  | none | some .null =>
      cases nested <;> simp [checkText, isMissing, checkMissing, HoldsText, IsBlank, IsMissing]
  | some (.str s) =>
      by_cases hempty : s = ""
      · cases nested <;> simp [checkText, isMissing, HoldsText, IsBlank, IsMissing, hempty]
      · have hne : s.isEmpty = false := by simpa using hempty
        cases hfault : formatFault? format s <;>
          simp [checkText, isMissing, HoldsText, IsBlank, IsMissing, hempty, hne, hfault]
  | some (.bool _) | some (.num _) | some (.arr _) | some (.obj _) =>
      simp [checkText, isMissing, HoldsText, IsBlank, IsMissing]

theorem checkText_plain_issues_eq_nil_iff (label : String) (nested : Bool) (input : Option Json) :
    (checkText label .plain (!nested) input).issues = [] ↔
      HoldsText (fun _ => True) nested input := by
  rw [checkText_issues_eq_nil_iff]
  simp [formatFault?]

theorem formatFault?_link_eq_none_iff {s : String} :
    formatFault? .link s = none ↔ Link.isLink s := by
  simp [formatFault?]

theorem formatFault?_image_eq_none_iff {s : String} :
    formatFault? .image s = none ↔ Link.isAbsoluteUrl s := by
  simp [formatFault?]

theorem formatFault?_absoluteUrl_eq_none_iff {s : String} :
    formatFault? .absoluteUrl s = none ↔ Link.isAbsoluteUrl s := by
  simp [formatFault?]

theorem checkText_any_issues_eq_nil_iff {label : String} {input : Option Json} :
    (checkText label .plain false input).issues = [] ↔ HoldsAnyText input := by
  match input with
  | none | some .null => simp [checkText, isMissing, checkMissing, HoldsAnyText, IsMissing]
  | some (.str s) =>
      cases hempty : s.isEmpty <;>
        simp [checkText, isMissing, formatFault?, HoldsAnyText, IsMissing, hempty]
  | some (.bool _) | some (.num _) | some (.arr _) | some (.obj _) =>
      simp [checkText, isMissing, HoldsAnyText, IsMissing]

theorem coerceNumber?_isSome_iff (s : String) :
    (coerceNumber? s).isSome ↔ ∃ x, Binary64.readLiteral? (Text.trimChars s.toList) = some x := by
  unfold coerceNumber?
  cases hread : Binary64.readLiteral? (Text.trimChars s.toList) with
  | none => simp
  | some x =>
      cases hint : x.toInt? with
      | none => simp [hint]
      | some i => by_cases hexact : i.natAbs ≤ greatestExact.natAbs <;> simp [hint, hexact]

theorem checkNumber_issues_eq_nil_iff {label : String} {input : Option Json} :
    (checkNumber label input).issues = [] ↔ HoldsNumber input := by
  match input with
  | none | some .null => simp [checkNumber, isMissing, checkMissing, HoldsNumber]
  | some (.num n) => simp [checkNumber, isMissing, HoldsNumber]
  | some (.str s) =>
      have hread := coerceNumber?_isSome_iff s
      cases hcoerce : coerceNumber? s with
      | none => simpa [checkNumber, isMissing, HoldsNumber, hcoerce] using hread
      | some n => simpa [checkNumber, isMissing, HoldsNumber, hcoerce] using hread
  | some (.bool _) | some (.arr _) | some (.obj _) => simp [checkNumber, isMissing, HoldsNumber]

theorem checkOne_issues_eq_nil_iff {label : String} {allowed : List String} {nested : Bool}
    {input : Option Json} :
    (checkOne label allowed (!nested) input).issues = [] ↔
      (nested ∧ IsBlank input) ∨ ∃ s ∈ allowed, input = some (.str s) := by
  match input with
  | none | some .null =>
      cases nested <;> simp [checkOne, isMissing, checkMissing, IsBlank, IsMissing]
  | some (.str s) =>
      by_cases hmem : s ∈ allowed
      · simp [checkOne, isMissing, hmem]
      · by_cases hempty : s = ""
        · subst hempty
          cases nested <;> simp [checkOne, isMissing, IsBlank, IsMissing, hmem]
        · simp [checkOne, isMissing, IsBlank, IsMissing, hmem, hempty]
  | some (.bool _) | some (.num _) | some (.arr _) | some (.obj _) =>
      simp [checkOne, isMissing, IsBlank, IsMissing]

theorem isAllowed_iff {allowed : List String} {item : Json} :
    isAllowed allowed item ↔ ∃ s ∈ allowed, item = .str s := by
  cases item <;> simp [isAllowed]

theorem checkMany_issues_eq_nil_iff {label : String} {allowed : List String} {nested : Bool}
    {input : Option Json} :
    (checkMany label allowed (!nested) input).issues = [] ↔
      (nested ∧ IsMissing input) ∨ ∃ items, input = some (.arr items) ∧ (items = [] → nested) ∧
        ∀ item ∈ items, ∃ s ∈ allowed, item = .str s := by
  match input with
  | none | some .null => cases nested <;> simp [checkMany, isMissing, IsMissing]
  | some (.arr []) => cases nested <;> simp [checkMany, isMissing, IsMissing]
  | some (.arr (first :: rest)) =>
      simp only [← isAllowed_iff]
      by_cases hbad : ((first :: rest).filter fun item => !isAllowed allowed item).isEmpty
      · have hall : ∀ item ∈ first :: rest, isAllowed allowed item := by simpa using hbad
        simpa [checkMany, isMissing, IsMissing, hbad] using hall
      · have hsome : ¬ ∀ item ∈ first :: rest, isAllowed allowed item := by simpa using hbad
        simpa [checkMany, isMissing, IsMissing, hbad] using hsome
  | some (.bool _) | some (.num _) | some (.str _) | some (.obj _) =>
      simp [checkMany, isMissing, IsMissing]

theorem check_ofOptions_issues_eq_nil_iff {label : String} {options : OptionSet} {nested : Bool}
    {input : Option Json} :
    (check (Rule.ofOptions label options nested) input).issues = [] ↔
      HoldsChoice options nested input := by
  simp only [Rule.ofOptions, HoldsChoice, OptionSet.isEmpty, List.isEmpty_iff]
  split
  · rw [Rule.anyText, check, checkText_any_issues_eq_nil_iff]
  · rw [check]
    split
    · exact checkMany_issues_eq_nil_iff
    · exact checkOne_issues_eq_nil_iff

/-! ### Objects and lists -/

/-- The members of an object that its fields ask for, once every field is known to be asked for
exactly what it holds. -/
theorem ofSiblings_issues_iff_allHold {fields : List FieldDescriptor} {nested : Bool}
    {values : List (String × Json)}
    (h : ∀ field ∈ fields, ∀ input,
      (check (Rule.ofField field nested) input).issues = [] ↔ field.Holds nested input) :
    (∀ id rule, (id, rule) ∈ Rule.ofSiblings fields nested →
        (check rule (Assoc.get? id values)).issues = []) ↔
      FieldDescriptor.AllHold fields nested values := by
  rw [FieldDescriptor.AllHold]
  constructor
  · intro hrules id field hfind
    refine (h field (List.mem_of_find?_eq_some hfind) _).mp ?_
    exact hrules id _ (Rule.mem_ofSiblings_iff.mpr ⟨field, hfind, rfl⟩)
  · intro hfields id rule hmem
    obtain ⟨field, hfind, rfl⟩ := Rule.mem_ofSiblings_iff.mp hmem
    exact (h field (List.mem_of_find?_eq_some hfind) _).mpr (hfields id field hfind)

theorem minimalMedia_issues_iff {values : List (String × Json)} :
    (∀ id rule, (id, rule) ∈ Rule.minimalMedia →
        (check rule (Assoc.get? id values)).issues = []) ↔
      HoldsText (fun _ => True) false (Assoc.get? "type" values) ∧
        HoldsText (fun s => Link.isAbsoluteUrl s) false (Assoc.get? "link" values) := by
  have htype := checkText_plain_issues_eq_nil_iff "type" false (Assoc.get? "type" values)
  have hlink := checkText_issues_eq_nil_iff "link" .absoluteUrl false (Assoc.get? "link" values)
  simp only [formatFault?_absoluteUrl_eq_none_iff, Bool.not_false] at htype hlink
  rw [← htype, ← hlink]
  simp only [Rule.minimalMedia, List.mem_cons, Prod.mk.injEq, List.not_mem_nil, or_false]
  constructor
  · intro h
    exact ⟨by simpa [check] using h "type" _ (.inl ⟨rfl, rfl⟩),
      by simpa [check] using h "link" _ (.inr ⟨rfl, rfl⟩)⟩
  · rintro ⟨htype, hlink⟩ id rule (⟨rfl, rfl⟩ | ⟨rfl, rfl⟩)
    · simpa [check] using htype
    · simpa [check] using hlink

theorem check_ofField_issues_eq_nil_iff (field : FieldDescriptor) (nested : Bool)
    (input : Option Json) :
    (check (Rule.ofField field nested) input).issues = [] ↔ field.Holds nested input := by
  induction field using FieldDescriptor.induct generalizing nested input with
  | step id label kind fields options extra ih =>
      have hall (nested : Bool) (values : List (String × Json)) :
          (∀ id rule, (id, rule) ∈ Rule.ofSiblings fields nested →
              (check rule (Assoc.get? id values)).issues = []) ↔
            FieldDescriptor.AllHold fields nested values :=
        ofSiblings_issues_iff_allHold fun field hmem input => ih field hmem nested input
      -- Kinds without fields come down to one check each; the others need the hypothesis through
      -- `hall`, at the nesting that their fields have.
      cases kind <;> simp only [Rule.ofField, FieldDescriptor.Holds]
      case string | text | richText => rw [check, checkText_plain_issues_eq_nil_iff]
      case url =>
        rw [check, checkText_issues_eq_nil_iff]
        simp only [formatFault?_link_eq_none_iff]
      case image =>
        rw [check, checkText_issues_eq_nil_iff]
        simp only [formatFault?_image_eq_none_iff]
      case number => rw [check, checkNumber_issues_eq_nil_iff]
      case select => exact check_ofOptions_issues_eq_nil_iff
      case other => rw [Rule.anyText, check, checkText_any_issues_eq_nil_iff]
      case object =>
        rw [check_record, checkObject_issues_eq_nil_iff]
        simp only [isMissing_iff_isMissing, Bool.not_eq_false', ← hall, Rule.ofSiblings]
      case list =>
        by_cases hfields : fields = []
        · simp [hfields, check_list_issues_eq_nil_iff, isMissing_iff_isMissing]
        · have hne : fields.isEmpty = false := by simpa using hfields
          rw [hne, if_neg Bool.false_ne_true, check_list_issues_eq_nil_iff]
          simp only [Option.some.injEq, forall_eq', check_record, checkObject_issues_eq_nil_iff,
            isMissing_iff_isMissing, ← hall, Rule.ofSiblings, hfields, Bool.true_eq_false,
            false_and, false_or, not_false_eq_true, forall_const, ne_eq]
      case media =>
        by_cases hfields : fields = []
        · simp only [hfields, List.isEmpty_nil, if_true, check_media,
            checkObject_issues_eq_nil_iff, isMissing_iff_isMissing, Bool.not_eq_false',
            minimalMedia_issues_iff]
        · have hne : fields.isEmpty = false := by simpa using hfields
          rw [hne, if_neg Bool.false_ne_true, check_media, checkObject_issues_eq_nil_iff]
          simp only [isMissing_iff_isMissing, Bool.not_eq_false', ← hall, Rule.ofSiblings,
            if_neg hfields]

end Validation

instance (field : FieldDescriptor) (nested : Bool) (input : Option Json) :
    Decidable (field.Holds nested input) :=
  decidable_of_iff _ (Validation.check_ofField_issues_eq_nil_iff field nested input)

/-- A list of fields accepts exactly the objects in which the first field of each id holds. -/
theorem CompiledSchema.accepts_iff_allHold (fields : List FieldDescriptor) (document : Json) :
    (∃ value, (ofFields fields).validate document = .accepted value) ↔
      ∃ values, document = .obj values ∧ FieldDescriptor.AllHold fields false values := by
  have hall (values : List (String × Json)) :
      (∀ id rule, (id, rule) ∈ Rule.ofSiblings fields false →
          (Validation.check rule (Assoc.get? id values)).issues = []) ↔
        FieldDescriptor.AllHold fields false values :=
    Validation.ofSiblings_issues_iff_allHold fun field _ input =>
      Validation.check_ofField_issues_eq_nil_iff field false input
  simp only [validate_eq_accepted_iff, ofFields, hall]
  constructor
  · rintro ⟨_, values, hdocument, hholds, -⟩
    exact ⟨values, hdocument, hholds⟩
  · rintro ⟨values, hdocument, hholds⟩
    exact ⟨_, values, hdocument, hholds, rfl⟩

example : ¬ (⟨"price", "Precio", .number, [], .empty, []⟩ : FieldDescriptor).Holds true none := by
  decide

end ContentForms

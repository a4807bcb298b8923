import ContentForms.Proofs.Checking
import ContentForms.Proofs.Compiled
import ContentForms.Proofs.Ordered

/-!
What becomes of a document that is accepted. `Normalized` says it rule by rule: a text at the place
of a number gives way to the number it stands for, a list that an object ought to have and has not
becomes an empty one, and that is all. What has no rule stays, and so do the length and the order of
lists, and members that are missing where they may be.

The two main statements are that an accepted document is stored in a form that `Normalized` allows,
and that this form is accepted once more and stays as it is. Both go by induction on the well-formed
rules. The objects of a document are maps, which here are association lists in ascending key order;
an ordered document stays ordered, and among ordered values `Normalized` leaves no choice.
-/

namespace ContentForms

/-! ### The form in which a value is stored -/

def Rule.IsObject : Rule → Prop
  | .record _ _ _ | .media _ _ _ _ => True
  | _ => False

/-- What is submitted for a rule, and what is stored for it. -/
inductive Normalized : Rule → Option Json → Option Json → Prop
  | text (label : String) (format : TextFormat) (required : Bool) (input : Option Json) :
      Normalized (.text label format required) input input
  | choice (label : String) (allowed : List String) (multiple required : Bool)
      (input : Option Json) : Normalized (.choice label allowed multiple required) input input
  | number (label : String) (n : Number) :
      Normalized (.number label) (some (.num n)) (some (.num n))
  /-- A text stands for a number. -/
  | numeral (label : String) {s : String} {n : Number}
      (coerced : Validation.coerceNumber? s = some n) :
      Normalized (.number label) (some (.str s)) (some (.num n))
  | missingObject {rule : Rule} (isObject : rule.IsObject) {input : Option Json}
      (missing : Validation.isMissing input) : Normalized rule input input
  | object {rule : Rule} (isObject : rule.IsObject) {values stored : List (String × Json)}
      (declared : ∀ id member, Assoc.get? id rule.members = some member →
        Normalized member (Assoc.get? id values) (Assoc.get? id stored))
      (others : ∀ key, Assoc.get? key rule.members = none →
        Assoc.get? key stored = Assoc.get? key values) :
      Normalized rule (some (.obj values)) (some (.obj stored))
  /-- An object without a list that it ought to have gets an empty one. -/
  | missingList (label : String) (element : Option Rule) {input : Option Json}
      (missing : Validation.isMissing input) :
      Normalized (.list label element) input (some (.arr []))
  | anyItems (label : String) (items : List Json) :
      Normalized (.list label none) (some (.arr items)) (some (.arr items))
  /-- Items keep their places, and none of them is missing. -/
  | items (label : String) {rule : Rule} {items stored : List Json}
      (present : ∀ item ∈ items, item ≠ .null) (length : stored.length = items.length)
      (each : ∀ (i : Nat) (item item' : Json), items[i]? = some item → stored[i]? = some item' →
        Normalized rule (some item) (some item')) :
      Normalized (.list label (some rule)) (some (.arr items)) (some (.arr stored))

namespace Validation

theorem eq_good_of_issues {outcome : Checked} (h : outcome.issues = []) :
    outcome = .good outcome.value := by
  cases outcome with
  | mk value issues =>
      cases h
      rfl

theorem check_of_required {label : String} {members : List (String × Rule)} {item : Json}
    (h : (check (.record label members true) (some item)).issues = []) :
    ∃ values value, item = .obj values ∧
      (check (.record label members true) (some item)).value = some value := by
  rw [check_record] at h
  rcases checkObject_issues_eq_nil_iff.mp h with ⟨hfalse, -⟩ | ⟨values, hitem, -⟩
  · cases hfalse
  · cases hitem
    rw [check_record, checkObject_obj, closeRecord_value]
    exact ⟨values, _, rfl, rfl⟩

/-! ### An accepted document is stored normalized -/

/-- The step of the induction below for the two rules of objects. -/
theorem normalized_checkObject (rule : Rule) (hrule : rule.IsObject) {label : String}
    {required : Bool} {input : Option Json} (hdistinct : (Assoc.keys rule.members).Nodup)
    (hgood : (checkObject label rule.members required input).issues = [])
    (ih : ∀ id member, (id, member) ∈ rule.members → ∀ {input},
      (check member input).issues = [] → Normalized member input (check member input).value) :
    Normalized rule input (checkObject label rule.members required input).value := by
  rcases checkObject_issues_eq_nil_iff.mp hgood with ⟨rfl, hmissing⟩ | ⟨values, rfl, heach⟩
  · rw [checkObject_of_missing hmissing]
    exact .missingObject hrule hmissing
  · rw [checkObject_obj, closeRecord_value]
    refine .object hrule ?_ ?_
    · intro id member hget
      have hmem := Assoc.mem_of_get? hget
      rw [get?_checkedMembers hdistinct, hget]
      exact ih id member hmem (heach id member hmem)
    · intro key hget
      rw [get?_checkedMembers hdistinct, hget]

theorem normalized_check {rule : Rule} (h : rule.WellFormed) {input : Option Json}
    (hgood : (check rule input).issues = []) : Normalized rule input (check rule input).value := by
  induction h generalizing input with
  | text label format required =>
      rw [check] at hgood ⊢
      rw [checkText_of_issues hgood]
      exact .text label format required input
  | number label =>
      rw [check] at hgood ⊢
      rcases checkNumber_of_issues hgood with ⟨n, rfl, hcheck⟩ | ⟨s, n, rfl, hcoerce, hcheck⟩
      · rw [hcheck]
        exact .number label n
      · rw [hcheck]
        exact .numeral label hcoerce
  | choice label allowed multiple required =>
      rw [check_choice_of_issues hgood]
      exact .choice label allowed multiple required input
  | record label required distinct _ ih =>
      rw [check_record] at hgood ⊢
      exact normalized_checkObject (.record label _ required) trivial distinct hgood ih
  | media label required minimal distinct _ ih =>
      rw [check_media] at hgood ⊢
      exact normalized_checkObject (.media label _ required minimal) trivial distinct hgood ih
  | anyItems label =>
      rcases check_list_issues_eq_nil_iff.mp hgood with hmissing | ⟨items, rfl, -⟩
      · rw [check_list_of_missing label none hmissing]
        exact .missingList label none hmissing
      · rw [check_anyItems_arr]
        exact .anyItems label items
  | items label itemLabel _ ih =>
      rcases check_list_issues_eq_nil_iff.mp hgood with hmissing | ⟨items, rfl, heach⟩
      · rw [check_list_of_missing label _ hmissing]
        exact .missingList label _ hmissing
      · rw [check_items_arr, closeList_value]
        refine .items label ?_ (List.length_map _) ?_
        · -- The rule of an item demands an object, so a null among the items would be an issue.
          rintro item hitem rfl
          obtain ⟨_, _, hobj, -⟩ := check_of_required (heach _ rfl .null hitem)
          cases hobj
        · intro i item item' hitem hitem'
          have hcheck := heach _ rfl item (List.mem_of_getElem? hitem)
          have hnorm := ih hcheck
          obtain ⟨-, value, -, hvalue⟩ := check_of_required hcheck
          rw [List.getElem?_map, hitem, Option.map_some, hvalue, Option.getD_some] at hitem'
          rwa [hvalue, hitem'] at hnorm

/-! ### What is stored is accepted as it is -/

theorem store_of_fixed (id : String) (values : List (String × Json)) :
    store values (id, .good (Assoc.get? id values)) = values := by
  cases hget : Assoc.get? id values with
  | none => exact Assoc.erase_of_get?_eq_none hget
  | some value => exact Assoc.insert_of_get? hget

theorem closeRecord_of_fixed {members : List (String × Rule)} {values : List (String × Json)}
    (h : ∀ id rule, (id, rule) ∈ members →
      check rule (Assoc.get? id values) = .good (Assoc.get? id values)) :
    closeRecord values (checkMembers members values) = .good (some (.obj values)) := by
  have hissues : (closeRecord values (checkMembers members values)).issues = [] := by
    rw [closeRecord_issues_eq_nil_iff]
    intro id rule hmem
    rw [h id rule hmem, issues_good]
  have hvalues : checkedMembers members values = values := by
    -- Each step puts back what is there, so the values never change on the way.
    rw [checkedMembers, checkMembers_eq_map, List.foldl_map]
    clear hissues
    induction members with
    | nil => rfl
    | cons entry rest ih =>
        obtain ⟨id, rule⟩ := entry
        rw [List.foldl_cons, h id rule List.mem_cons_self, store_of_fixed]
        exact ih fun id rule hmem => h id rule (List.mem_cons_of_mem _ hmem)
  rw [eq_good_of_issues hissues, closeRecord_value, hvalues]

theorem closeList_of_fixed {rule : Rule} {items : List Json}
    (h : ∀ item ∈ items, check rule (some item) = .good (some item)) :
    closeList (items.map fun item => (item, check rule (some item))) =
      .good (some (.arr items)) := by
  have hissues :
      (closeList (items.map fun item => (item, check rule (some item)))).issues = [] := by
    rw [closeList_issues_eq_nil_iff]
    intro outcome hmem
    obtain ⟨item, hitem, rfl⟩ := List.mem_map.mp hmem
    rw [h item hitem, issues_good]
  have hitems : items.map (fun item => (check rule (some item)).value.getD item) = items := by
    conv => rhs; rw [← List.map_id items]
    refine List.map_congr_left ?_
    intro item hitem
    rw [h item hitem]
    rfl
  rw [eq_good_of_issues hissues, closeList_value, hitems]

theorem checkObject_fixed {label : String} {members : List (String × Rule)} {required : Bool}
    {input : Option Json} (hdistinct : (Assoc.keys members).Nodup)
    (hgood : (checkObject label members required input).issues = [])
    (ih : ∀ id rule, (id, rule) ∈ members → ∀ {input}, (check rule input).issues = [] →
      check rule (check rule input).value = .good (check rule input).value) :
    checkObject label members required (checkObject label members required input).value =
      .good (checkObject label members required input).value := by
  rcases checkObject_issues_eq_nil_iff.mp hgood with ⟨rfl, hmissing⟩ | ⟨values, rfl, heach⟩
  · rw [checkObject_of_missing hmissing, value_good, checkObject_of_missing hmissing]
  · rw [checkObject_obj, closeRecord_value, checkObject_obj]
    refine closeRecord_of_fixed ?_
    intro id rule hmem
    rw [get?_checkedMembers hdistinct, (Assoc.get?_eq_some_iff hdistinct).mpr hmem]
    exact ih id rule hmem (heach id rule hmem)

/-- What a check without issues gives passes the same check and comes out of it unchanged. -/
theorem check_fixed {rule : Rule} (h : rule.WellFormed) {input : Option Json}
    (hgood : (check rule input).issues = []) :
    check rule (check rule input).value = .good (check rule input).value := by
  induction h generalizing input with
  | text label format required =>
      have hcheck : check (.text label format required) input = .good input := by
        rw [check] at hgood ⊢
        exact checkText_of_issues hgood
      rw [hcheck, value_good, hcheck]
  | number label =>
      rw [check] at hgood
      rcases checkNumber_of_issues hgood with ⟨n, rfl, hcheck⟩ | ⟨s, n, rfl, hcoerce, hcheck⟩
      · rw [← check] at hcheck
        rw [hcheck, value_good, hcheck]
      · -- The number in place of the text is not read a second time.
        rw [← check] at hcheck
        rw [hcheck, value_good, check]
        rfl
  | choice label allowed multiple required =>
      rw [check_choice_of_issues hgood, value_good, check_choice_of_issues hgood]
  | record label required distinct _ ih =>
      rw [check_record] at hgood ⊢
      rw [check_record]
      exact checkObject_fixed distinct hgood ih
  | media label required minimal distinct _ ih =>
      rw [check_media] at hgood ⊢
      rw [check_media]
      exact checkObject_fixed distinct hgood ih
  | anyItems label =>
      rcases check_list_issues_eq_nil_iff.mp hgood with hmissing | ⟨items, rfl, -⟩
      · rw [check_list_of_missing label none hmissing, value_good, check_anyItems_arr]
      · rw [check_anyItems_arr, value_good, check_anyItems_arr]
  | items label itemLabel _ ih =>
      rcases check_list_issues_eq_nil_iff.mp hgood with hmissing | ⟨items, rfl, heach⟩
      · rw [check_list_of_missing label _ hmissing, value_good, check_items_arr]
        exact closeList_of_fixed (by simp)
      · rw [check_items_arr, closeList_value, check_items_arr]
        refine closeList_of_fixed ?_
        intro stored hmem
        obtain ⟨item, hitem, rfl⟩ := List.mem_map.mp hmem
        have hcheck := heach _ rfl item hitem
        have hfixed := ih hcheck
        obtain ⟨-, value, -, hvalue⟩ := check_of_required hcheck
        rwa [hvalue] at hfixed ⊢

end Validation

/-- Among ordered values there is one at most in which a value can be stored. -/
theorem Normalized.unique {rule : Rule} {input a b : Option Json} (ha : Normalized rule input a)
    (hb : Normalized rule input b) (hordered : OrderedInput a) (hordered' : OrderedInput b) :
    a = b := by
  induction ha generalizing b with
  | text =>
      cases hb with
      | text => rfl
      | missingObject isObject | object isObject => cases isObject
  | choice =>
      cases hb with
      | choice => rfl
      | missingObject isObject | object isObject => cases isObject
  | number =>
      cases hb with
      | number => rfl
      | missingObject isObject => cases isObject
  | numeral _ coerced =>
      cases hb with
      | numeral _ coerced' => rw [coerced] at coerced'; cases coerced'; rfl
      | missingObject isObject => cases isObject
  | missingObject isObject missing =>
      cases hb with
      | text | choice | missingObject => rfl
      | number | numeral | missingList | anyItems | items => cases isObject
      | object => cases missing
  | @object rule isObject values stored declared others ih =>
      cases hb with
      | text | choice | missingList => cases isObject
      | missingObject _ missing => cases missing
      | object _ declared' others' =>
          have hstored := hordered _ rfl
          have hstored' := hordered' _ rfl
          -- The members are fixed one by one, and their order because both objects ascend.
          refine congrArg (fun members => some (Json.obj members)) ?_
          apply hstored.ascending.ext hstored'.ascending
          intro key
          cases hget : Assoc.get? key rule.members with
          | none => rw [others key hget, others' key hget]
          | some member =>
              exact ih key member hget (declared' key member hget) (hstored.get? key)
                (hstored'.get? key)
  | missingList label element missing =>
      cases hb with
      | missingList => rfl
      | missingObject isObject | object isObject => cases isObject
      | anyItems | items => cases missing
  | anyItems =>
      cases hb with
      | anyItems => rfl
      | missingObject isObject => cases isObject
      | missingList _ _ missing => cases missing
  | @items label rule items stored present length each ih =>
      cases hb with
      | missingObject isObject => cases isObject
      | missingList _ _ missing => cases missing
      | @items _ _ _ stored' present' length' each' =>
          have hstored := hordered _ rfl
          have hstored' := hordered' _ rfl
          refine congrArg (fun items => some (Json.arr items)) ?_
          refine List.ext_getElem (length.trans length'.symm) ?_
          intro i hi hi'
          have hitems : i < items.length := length ▸ hi
          have hitem : items[i]? = some items[i] := List.getElem?_eq_getElem hitems
          have heq := ih i _ _ hitem (List.getElem?_eq_getElem hi)
            (each' i _ _ hitem (List.getElem?_eq_getElem hi')) ?_ ?_
          · exact Option.some.inj heq
          · rintro _ ⟨⟩
            exact hstored.of_mem (List.getElem_mem hi)
          · rintro _ ⟨⟩
            exact hstored'.of_mem (List.getElem_mem hi')

/-! ### Whole documents -/

namespace CompiledSchema

variable {schema : CompiledSchema} {document value : Json}

theorem check_root_of_accepted (h : schema.validate document = .accepted value) :
    (Validation.check schema.root (some document)).issues = [] ∧
      (Validation.check schema.root (some document)).value = some value := by
  obtain ⟨values, rfl, heach, rfl⟩ := validate_eq_accepted_iff.mp h
  rw [root, Validation.check_record, Validation.checkObject_obj]
  exact ⟨(Validation.closeRecord_issues_eq_nil_iff _ _).mpr heach, rfl⟩

theorem normalized_of_accepted (hrule : schema.root.WellFormed)
    (h : schema.validate document = .accepted value) :
    Normalized schema.root (some document) (some value) := by
  obtain ⟨hissues, hvalue⟩ := check_root_of_accepted h
  have hnormalized := Validation.normalized_check hrule hissues
  rwa [hvalue] at hnormalized

theorem validate_of_accepted (hrule : schema.root.WellFormed)
    (h : schema.validate document = .accepted value) :
    schema.validate value = .accepted value := by
  obtain ⟨hissues, hvalue⟩ := check_root_of_accepted h
  have hfixed := Validation.check_fixed hrule hissues
  obtain ⟨_, -, -, rfl⟩ := validate_eq_accepted_iff.mp h
  rw [hvalue] at hfixed
  rw [validate, Json.isObject, if_pos rfl, hfixed]
  rfl

end CompiledSchema

namespace SchemaDocument

variable {schema : SchemaDocument} {document value : Json}

/-- What is stored is accepted again, and stored as it is. -/
theorem validate_idempotent (hkeyed : schema.Keyed)
    (h : schema.compile.validate document = .accepted value) :
    schema.compile.validate value = .accepted value :=
  CompiledSchema.validate_of_accepted (wellFormed_root hkeyed) h

def priceSchema : SchemaDocument :=
  .sectioned
    [("prices", .oneField ⟨"prices", "Precios", .list,
        [⟨"amount", "Importe", .number, [], .empty, []⟩,
          ⟨"tags", "Etiquetas", .list, [], .empty, []⟩],
        .empty, []⟩),
      ("seo", .fieldList [⟨"title", "Título", .string, [], .empty, []⟩])]

/-- A price written as a text, without tags, and beside it members that no field declares. -/
def priceDocument : Json :=
  .obj [("legacy", .null), ("prices", .arr [.obj [("amount", .str " 12 "), ("tags", .null)]]),
    ("seo", .obj [("note", .bool true), ("title", .str "Hola")])]

def storedPrices : Json :=
  .obj [("legacy", .null), ("prices", .arr [.obj [("amount", .num (.int 12)), ("tags", .arr [])]]),
    ("seo", .obj [("note", .bool true), ("title", .str "Hola")])]

theorem keyed_priceSchema : priceSchema.Keyed := by
  refine .sectionMap (by decide) ?_
  intro key body hmem
  simp only [List.mem_cons, Prod.mk.injEq, List.not_mem_nil, or_false] at hmem
  rcases hmem with ⟨-, rfl⟩ | ⟨-, rfl⟩
  · exact .oneField _
  · exact .fieldList _

theorem ordered_priceDocument : priceDocument.Ordered := by
  have hread : Json.read?
      ("\x7b\"seo\":\x7b\"title\":\"Hola\",\"note\":true\x7d,\"legacy\":null," ++
        "\"prices\":[\x7b\"amount\":\" 12 \",\"tags\":null\x7d]\x7d") = some priceDocument := by
    decide +kernel
  exact Json.ordered_of_read? hread

theorem accepted_priceDocument :
    priceSchema.compile.validate priceDocument = .accepted storedPrices := by
  decide +kernel

theorem validate_idempotent_prices :
    priceSchema.Keyed ∧ priceSchema.compile.validate priceDocument = .accepted storedPrices ∧
      priceSchema.compile.validate storedPrices = .accepted storedPrices :=
  ⟨keyed_priceSchema, accepted_priceDocument,
    validate_idempotent keyed_priceSchema accepted_priceDocument⟩

/-- An accepted document is stored as an object that differs from it in numbers written as texts and
in lists that were missing, and in nothing else. -/
theorem validate_normalized (hkeyed : schema.Keyed)
    (h : schema.compile.validate document = .accepted value) :
    (∃ stored, value = .obj stored) ∧
      Normalized schema.compile.root (some document) (some value) ∧
      (document.Ordered → value.Ordered ∧ ∀ other : Json, other.Ordered →
        Normalized schema.compile.root (some document) (some other) → other = value) := by
  have hnormalized := CompiledSchema.normalized_of_accepted (wellFormed_root hkeyed) h
  obtain ⟨hissues, hvalue⟩ := CompiledSchema.check_root_of_accepted h
  obtain ⟨values, -, -, hstored⟩ := CompiledSchema.validate_eq_accepted_iff.mp h
  refine ⟨⟨_, hstored⟩, hnormalized, ?_⟩
  intro hdocument
  have hordered : OrderedInput (some value) := by
    rw [← hvalue]
    refine Validation.has_check Json.hereditary_ordered (fun _ _ _ => trivial) _ _ ?_ hissues
    rintro _ ⟨⟩
    exact hdocument
  refine ⟨hordered value rfl, ?_⟩
  intro other hother hnormalized'
  have heq := hnormalized'.unique hnormalized ?_ hordered
  · exact Option.some.inj heq
  · rintro _ ⟨⟩
    exact hother

theorem validate_normalized_prices :
    priceSchema.Keyed ∧ priceSchema.compile.validate priceDocument = .accepted storedPrices ∧
      Normalized priceSchema.compile.root (some priceDocument) (some storedPrices) ∧
      storedPrices.Ordered := by
  obtain ⟨-, hnormalized, hordered⟩ := validate_normalized keyed_priceSchema accepted_priceDocument
  exact ⟨keyed_priceSchema, accepted_priceDocument, hnormalized, (hordered ordered_priceDocument).1⟩

end SchemaDocument

end ContentForms

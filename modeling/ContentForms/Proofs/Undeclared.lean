import ContentForms.Proofs.Normalization
import ContentForms.Proofs.Visits

/-!
What a schema does not declare never influences a check. `SameDeclared` relates two values that a
rule is not able to tell apart: they are the same wherever the rule asks for something, and may
differ in the members that an object has beside the declared ones and in the items of a list of
which nothing is asked. Two such values are followed through a check side by side. At every declared
place the check comes to related values again, so it finds the same issues, and puts related values
into the objects and lists around them; what is not declared it only passes on.
-/

namespace ContentForms

/-- Two values that differ at most where a rule declares nothing. -/
inductive SameDeclared : Rule → Option Json → Option Json → Prop
  | same (rule : Rule) (input : Option Json) : SameDeclared rule input input
  | object {rule : Rule} (isObject : rule.IsObject) {values values' : List (String × Json)}
      (declared : ∀ id member, (id, member) ∈ rule.members →
        SameDeclared member (Assoc.get? id values) (Assoc.get? id values')) :
      SameDeclared rule (some (.obj values)) (some (.obj values'))
  | anyItems (label : String) (items items' : List Json) :
      SameDeclared (.list label none) (some (.arr items)) (some (.arr items'))
  | items (label : String) {rule : Rule} {items items' : List Json}
      (length : items'.length = items.length)
      (each : ∀ (i : Nat) (item item' : Json), items[i]? = some item → items'[i]? = some item' →
        SameDeclared rule (some item) (some item')) :
      SameDeclared (.list label (some rule)) (some (.arr items)) (some (.arr items'))

namespace Validation

theorem check_of_isObject {rule : Rule} (h : rule.IsObject) (input : Option Json) :
    check rule input = checkObject rule.label rule.members rule.isRequired input := by
  cases rule with
  | record label members required => exact check_record label members required input
  | media label members required minimal => exact check_media label members required minimal input
  | _ => cases h

variable {rule : Rule}

theorem closeList_issues_congr {items items' : List Json} (length : items'.length = items.length)
    (each : ∀ (i : Nat) (item item' : Json), items[i]? = some item → items'[i]? = some item' →
      (check rule (some item)).issues = (check rule (some item')).issues) :
    (closeList (items.map fun item => (item, check rule (some item)))).issues =
      (closeList (items'.map fun item => (item, check rule (some item)))).issues := by
  rw [closeList_issues, closeList_issues, List.flatMap_def, List.flatMap_def]
  refine congrArg List.flatten (List.ext_getElem (by simp [length]) fun i hi hi' => ?_)
  simp only [List.getElem_map, List.getElem_zipIdx, Nat.zero_add]
  rw [each i _ _ (List.getElem?_eq_getElem _) (List.getElem?_eq_getElem _)]

/-- A check does not tell such values apart, and what it makes of them are such values again. -/
theorem sameDeclared_check (hrule : rule.WellFormed) {input input' : Option Json}
    (h : SameDeclared rule input input') :
    (check rule input).issues = (check rule input').issues ∧
      ((check rule input).issues = [] →
        SameDeclared rule (check rule input).value (check rule input').value) := by
  induction h with
  | same rule input => exact ⟨rfl, fun _ => .same rule _⟩
  | @object rule isObject values values' declared ih =>
      have heach (id : String) (member : Rule) (hmem : (id, member) ∈ rule.members) :=
        ih id member hmem (hrule.member hmem)
      rw [check_of_isObject isObject, check_of_isObject isObject, checkObject_obj, checkObject_obj]
      constructor
      · rw [closeRecord_issues, closeRecord_issues]
        refine List.flatMap_congr fun entry hmem => ?_
        rw [(heach entry.1 entry.2 hmem).1]
      · intro hnone
        rw [closeRecord_issues_eq_nil_iff] at hnone
        rw [closeRecord_value, closeRecord_value]
        refine .object isObject fun id member hmem => ?_
        have hget := (Assoc.get?_eq_some_iff hrule.nodup_members).mpr hmem
        rw [get?_checkedMembers hrule.nodup_members, get?_checkedMembers hrule.nodup_members, hget]
        exact (heach id member hmem).2 (hnone id member hmem)
  | anyItems label items items' =>
      rw [check_anyItems_arr, check_anyItems_arr]
      exact ⟨rfl, fun _ => .anyItems label items items'⟩
  | @items label rule items items' length each ih =>
      cases hrule with
      | items label itemLabel hrecord =>
          have hitem (i : Nat) (item item' : Json) (h : items[i]? = some item)
              (h' : items'[i]? = some item') := ih i item item' h h' hrecord
          rw [check_items_arr, check_items_arr]
          refine ⟨closeList_issues_congr length fun i item item' h h' =>
            (hitem i item item' h h').1, fun hnone => ?_⟩
          have heach := closeList_issues_eq_nil_iff.mp hnone
          rw [closeList_value, closeList_value]
          refine .items label (by simp [length]) fun i stored stored' hstored hstored' => ?_
          rw [List.getElem?_map, Option.map_eq_some_iff] at hstored hstored'
          obtain ⟨item, hmem, rfl⟩ := hstored
          obtain ⟨item', hmem', rfl⟩ := hstored'
          obtain ⟨hsame, hdeclared⟩ := hitem i item item' hmem hmem'
          have hgood := heach _ (List.mem_map_of_mem (List.mem_of_getElem? hmem))
          obtain ⟨-, value, -, hvalue⟩ := check_of_required hgood
          obtain ⟨-, value', -, hvalue'⟩ := check_of_required (hsame ▸ hgood)
          have hvalues := hdeclared hgood
          rwa [hvalue, hvalue'] at hvalues ⊢

end Validation

theorem SameDeclared.record {label : String} {members : List (String × Rule)} {required : Bool}
    {values values' : List (String × Json)}
    (declared : ∀ entry ∈ members,
      SameDeclared entry.2 (Assoc.get? entry.1 values) (Assoc.get? entry.1 values')) :
    SameDeclared (.record label members required) (some (.obj values)) (some (.obj values')) :=
  @SameDeclared.object (.record label members required) trivial values values'
    fun id member hmem => declared (id, member) hmem

theorem SameDeclared.isObject_eq {rule : Rule} {value value' : Json}
    (h : SameDeclared rule (some value) (some value')) : value.isObject = value'.isObject := by
  cases h <;> rfl

namespace CompiledSchema

variable {schema : CompiledSchema} {document document' : Json}

theorem issues_of_sameDeclared (hrule : schema.root.WellFormed)
    (h : SameDeclared schema.root (some document) (some document')) :
    (schema.validate document).issues = (schema.validate document').issues := by
  rw [validate, validate, h.isObject_eq]
  split
  · rw [Validation.issues_ofChecked, Validation.issues_ofChecked,
      (Validation.sameDeclared_check hrule h).1]
  · rfl

theorem stored_of_sameDeclared (hrule : schema.root.WellFormed)
    (h : SameDeclared schema.root (some document) (some document')) {value value' : Json}
    (haccepted : schema.validate document = .accepted value)
    (haccepted' : schema.validate document' = .accepted value') :
    SameDeclared schema.root (some value) (some value') := by
  obtain ⟨hissues, hvalue⟩ := check_root_of_accepted haccepted
  obtain ⟨-, hvalue'⟩ := check_root_of_accepted haccepted'
  have hvalues := (Validation.sameDeclared_check hrule h).2 hissues
  rwa [hvalue, hvalue'] at hvalues

end CompiledSchema

namespace SchemaDocument

variable {schema : SchemaDocument} {document document' : Json}

/-- Two documents that differ only where the schema declares nothing have the same issues. If they
are accepted, what is stored for them differs only where nothing is declared, too, and there each is
stored as it was submitted. -/
theorem undeclared_is_inert (hkeyed : schema.Keyed)
    (h : SameDeclared schema.compile.root (some document) (some document')) :
    (schema.compile.validate document).issues = (schema.compile.validate document').issues ∧
      (schema.compile.validate document).isAccepted =
        (schema.compile.validate document').isAccepted ∧
      ∀ value value', schema.compile.validate document = .accepted value →
        schema.compile.validate document' = .accepted value' →
          SameDeclared schema.compile.root (some value) (some value') ∧
            Normalized schema.compile.root (some document) (some value) ∧
            Normalized schema.compile.root (some document') (some value') := by
  have hrule := wellFormed_root hkeyed
  have hissues := CompiledSchema.issues_of_sameDeclared hrule h
  refine ⟨hissues, ?_, fun value value' haccepted haccepted' => ?_⟩
  · rw [Bool.eq_iff_iff, CompiledSchema.isAccepted_iff, CompiledSchema.isAccepted_iff, hissues]
  · exact ⟨CompiledSchema.stored_of_sameDeclared hrule h haccepted haccepted',
      CompiledSchema.normalized_of_accepted hrule haccepted,
      CompiledSchema.normalized_of_accepted hrule haccepted'⟩

/-- A price with a unit and a tag, in a document with an old member beside its sections. -/
def kiloPrice : Json :=
  .obj [("legacy", .null),
    ("prices", .arr [.obj [("amount", .str " 12 "), ("tags", .arr [.str "fruta"]),
      ("unit", .str "kg")]]),
    ("seo", .obj [("title", .str "Hola")])]

/-- The same price without a unit and with other tags, and a note at the title. -/
def notedPrice : Json :=
  .obj [("prices", .arr [.obj [("amount", .str " 12 "), ("tags", .arr [.null, .bool true])]]),
    ("seo", .obj [("note", .bool true), ("title", .str "Hola")])]

theorem root_priceSchema : priceSchema.compile.root =
    .record CompiledSchema.rootLabel
      [("prices", .list "Precios" (some (.record "Precios"
        [("amount", .number "Importe"), ("tags", .list "Etiquetas" none)] true))),
        ("seo", .record "seo" [("title", .text "Título" .plain true)] true)] true := by
  rfl

theorem sameDeclared_prices :
    SameDeclared priceSchema.compile.root (some kiloPrice) (some notedPrice) := by
  have hprice : SameDeclared
      (.record "Precios" [("amount", .number "Importe"), ("tags", .list "Etiquetas" none)] true)
      (some (.obj [("amount", .str " 12 "), ("tags", .arr [.str "fruta"]), ("unit", .str "kg")]))
      (some (.obj [("amount", .str " 12 "), ("tags", .arr [.null, .bool true])])) := by
    refine .record (List.forall_mem_cons.mpr ⟨.same _ _, List.forall_mem_singleton.mpr ?_⟩)
    exact .anyItems "Etiquetas" _ _
  rw [root_priceSchema]
  refine .record (List.forall_mem_cons.mpr ⟨?_, List.forall_mem_singleton.mpr ?_⟩)
  · refine .items "Precios" rfl ?_
    intro i item item' hitem hitem'
    cases i with
    | zero =>
        cases hitem
        cases hitem'
        exact hprice
    | succ i => cases hitem
  · exact .record (List.forall_mem_singleton.mpr (.same _ _))

/-- Both prices are accepted, and each document keeps what nothing declares. -/
theorem undeclared_is_inert_prices :
    let stored : Json := .obj [("legacy", .null),
      ("prices", .arr [.obj [("amount", .num (.int 12)), ("tags", .arr [.str "fruta"]),
        ("unit", .str "kg")]]),
      ("seo", .obj [("title", .str "Hola")])]
    let stored' : Json := .obj
      [("prices", .arr [.obj [("amount", .num (.int 12)), ("tags", .arr [.null, .bool true])]]),
        ("seo", .obj [("note", .bool true), ("title", .str "Hola")])]
    priceSchema.Keyed ∧
      SameDeclared priceSchema.compile.root (some kiloPrice) (some notedPrice) ∧
      priceSchema.compile.validate kiloPrice = .accepted stored ∧
      priceSchema.compile.validate notedPrice = .accepted stored' ∧
      SameDeclared priceSchema.compile.root (some stored) (some stored') ∧
      Normalized priceSchema.compile.root (some kiloPrice) (some stored) ∧
      Normalized priceSchema.compile.root (some notedPrice) (some stored') := by
  intro stored stored'
  have hkilo : priceSchema.compile.validate kiloPrice = .accepted stored := by decide +kernel
  have hnoted : priceSchema.compile.validate notedPrice = .accepted stored' := by decide +kernel
  obtain ⟨-, -, hstored⟩ := undeclared_is_inert keyed_priceSchema sameDeclared_prices
  exact ⟨keyed_priceSchema, sameDeclared_prices, hkilo, hnoted, hstored stored stored' hkilo hnoted⟩

end SchemaDocument

end ContentForms

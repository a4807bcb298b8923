import ContentForms.Proofs.Entries
import ContentForms.Validation.Check

/-!
What a check without issues has seen, one form of rule at a time. Of a text or a choice it gives
back what was submitted; of a number it gives the number or the one that the text stands for; of an
object it gives the members that its rules gave, and the rest untouched. Records and media values
are checked alike, which `checkObject` makes explicit, and looking up in the object that
`closeRecord` builds needs one assumption: that no member has two rules, for of two the later would
win. Two checks of the same value are compared container by container, for any relation between
outcomes.
-/

namespace ContentForms

namespace Validation

@[simp] theorem issues_good (value : Option Json) : (Checked.good value).issues = [] := rfl

@[simp] theorem value_good (value : Option Json) : (Checked.good value).value = value := rfl

@[simp] theorem issues_fault (label : String) (f : Fault) (value : Option Json) :
    (Checked.fault label f value).issues = [.here label f] := rfl

theorem isMissing_iff {input : Option Json} :
    isMissing input ↔ input = none ∨ input = some .null := by
  unfold isMissing
  split <;> simp_all

theorem checkMissing_of_issues {label : String} {required : Bool} {input : Option Json}
    (h : (checkMissing label required input).issues = []) :
    required = false ∧ checkMissing label required input = .good input := by
  cases required with
  | true => simp [checkMissing] at h
  | false => simp [checkMissing]

/-! ### Texts, numbers and choices -/

theorem checkText_of_issues {label : String} {format : TextFormat} {required : Bool}
    {input : Option Json} (h : (checkText label format required input).issues = []) :
    checkText label format required input = .good input := by
  unfold checkText at h ⊢
  split at h
  · next hmissing =>
      rw [if_pos hmissing]
      exact (checkMissing_of_issues h).2
  · next hpresent =>
      rw [if_neg hpresent]
      split at h
      · next s =>
          by_cases hempty : s.isEmpty
          · cases required <;> simp [hempty] at h ⊢
          · cases hfault : formatFault? format s <;> simp [hempty, hfault] at h ⊢
      · simp at h

theorem checkNumber_of_issues {label : String} {input : Option Json}
    (h : (checkNumber label input).issues = []) :
    (∃ n, input = some (.num n) ∧ checkNumber label input = .good input) ∨
      ∃ s n, input = some (.str s) ∧ coerceNumber? s = some n ∧
        checkNumber label input = .good (some (.num n)) := by
  unfold checkNumber at h ⊢
  split at h
  · simp [checkMissing] at h
  · next hpresent =>
      rw [if_neg hpresent]
      split at h
      · next n => exact .inl ⟨n, rfl, rfl⟩
      · next s =>
          cases hcoerce : coerceNumber? s with
          | none => simp [hcoerce] at h
          | some n => exact .inr ⟨s, n, rfl, hcoerce, by simp⟩
      · simp at h

theorem checkOne_of_issues {label : String} {allowed : List String} {required : Bool}
    {input : Option Json} (h : (checkOne label allowed required input).issues = []) :
    checkOne label allowed required input = .good input := by
  unfold checkOne at h ⊢
  split at h
  · next hmissing =>
      rw [if_pos hmissing]
      exact (checkMissing_of_issues h).2
  · next hpresent =>
      rw [if_neg hpresent]
      split at h
      · next s =>
          split at h
          · next hallowed => simp only [hallowed, if_true]
          · simp at h
      · simp at h

theorem checkMany_of_issues {label : String} {allowed : List String} {required : Bool}
    {input : Option Json} (h : (checkMany label allowed required input).issues = []) :
    checkMany label allowed required input = .good input := by
  unfold checkMany at h ⊢
  split at h
  · next hmissing =>
      rw [if_pos hmissing]
      cases required <;> simp at h ⊢
  · next hpresent =>
      rw [if_neg hpresent]
      split at h
      · next items =>
          by_cases hnone : (items.isEmpty && required) = true
          · simp [hnone] at h
          · simp only [hnone] at h ⊢
            by_cases hbad : (items.filter fun item => !isAllowed allowed item).isEmpty
            · simp [hbad]
            · simp [hbad] at h
      · simp at h

theorem check_choice_of_issues {label : String} {allowed : List String} {multiple required : Bool}
    {input : Option Json}
    (h : (check (.choice label allowed multiple required) input).issues = []) :
    check (.choice label allowed multiple required) input = .good input := by
  rw [check] at h ⊢
  cases multiple with
  | true => exact checkMany_of_issues h
  | false => exact checkOne_of_issues h

/-! ### Objects -/

/-- The check of an object, for records and media values alike. -/
def checkObject (label : String) (members : List (String × Rule)) (required : Bool)
    (input : Option Json) : Checked :=
  if isMissing input then checkMissing label required input
  else match input with
    | some (.obj values) => closeRecord values (checkMembers members values)
    | _ => .fault label .wrongShape none

theorem check_record (label : String) (members : List (String × Rule)) (required : Bool)
    (input : Option Json) :
    check (.record label members required) input = checkObject label members required input := by
  unfold check checkObject
  rfl

theorem check_media (label : String) (members : List (String × Rule)) (required minimal : Bool)
    (input : Option Json) :
    check (.media label members required minimal) input =
      checkObject label members required input := by
  unfold check checkObject
  rfl

@[simp] theorem checkObject_obj (label : String) (members : List (String × Rule)) (required : Bool)
    (values : List (String × Json)) :
    checkObject label members required (some (.obj values)) =
      closeRecord values (checkMembers members values) := rfl

theorem checkMembers_eq_map (members : List (String × Rule)) (values : List (String × Json)) :
    checkMembers members values =
      members.map fun entry => (entry.1, check entry.2 (Assoc.get? entry.1 values)) := by
  induction members with
  | nil => rw [checkMembers, List.map_nil]
  | cons entry rest ih => rw [checkMembers, ih, List.map_cons]

theorem keys_checkMembers (members : List (String × Rule)) (values : List (String × Json)) :
    Assoc.keys (checkMembers members values) = Assoc.keys members := by
  rw [checkMembers_eq_map, Assoc.keys, Assoc.keys, List.map_map]
  rfl

theorem get?_checkMembers (key : String) (members : List (String × Rule))
    (values : List (String × Json)) :
    Assoc.get? key (checkMembers members values) =
      (Assoc.get? key members).map fun rule => check rule (Assoc.get? key values) := by
  rw [checkMembers_eq_map]
  exact Assoc.get?_map key (fun id rule => check rule (Assoc.get? id values)) members

theorem closeRecord_issues_eq_nil_iff (members : List (String × Rule))
    (values : List (String × Json)) :
    (closeRecord values (checkMembers members values)).issues = [] ↔
      ∀ id rule, (id, rule) ∈ members → (check rule (Assoc.get? id values)).issues = [] := by
  simp only [closeRecord, checkMembers_eq_map, List.flatMap_eq_nil_iff, List.map_eq_nil_iff,
    List.forall_mem_map, Prod.forall]

theorem checkObject_issues_eq_nil_iff {label : String} {members : List (String × Rule)}
    {required : Bool} {input : Option Json} :
    (checkObject label members required input).issues = [] ↔
      (required = false ∧ isMissing input) ∨ ∃ values, input = some (.obj values) ∧
        ∀ id rule, (id, rule) ∈ members → (check rule (Assoc.get? id values)).issues = [] := by
  match input with
  | none | some .null => cases required <;> simp [checkObject, checkMissing, isMissing]
  | some (.obj values) => simp [closeRecord_issues_eq_nil_iff, isMissing]
  | some (.bool _) | some (.num _) | some (.str _) | some (.arr _) =>
      simp [checkObject, isMissing]

theorem checkObject_of_missing {label : String} {members : List (String × Rule)}
    {input : Option Json} (h : isMissing input) :
    checkObject label members false input = .good input := by
  simp [checkObject, checkMissing, h]

/-! ### The object after its check -/

theorem get?_store_self (outcome : String × Checked) (members : List (String × Json)) :
    Assoc.get? outcome.1 (store members outcome) = outcome.2.value := by
  cases h : outcome.2.value <;> simp [store, h]

theorem get?_store_of_ne {outcome : String × Checked} {key : String} (h : key ≠ outcome.1)
    (members : List (String × Json)) :
    Assoc.get? key (store members outcome) = Assoc.get? key members := by
  cases hvalue : outcome.2.value with
  | none => simpa [store, hvalue] using Assoc.get?_erase_of_ne h members
  | some value => simpa [store, hvalue] using Assoc.get?_insert_of_ne h value members

/-- A member with an outcome has the value of that outcome, any other one what it had. -/
theorem get?_foldl_store {outcomes : List (String × Checked)} (h : (Assoc.keys outcomes).Nodup)
    (key : String) (members : List (String × Json)) :
    Assoc.get? key (outcomes.foldl store members) =
      ((Assoc.get? key outcomes).map Checked.value).getD (Assoc.get? key members) := by
  induction outcomes generalizing members with
  | nil => rfl
  | cons outcome rest ih =>
      obtain ⟨hfirst, hrest⟩ := List.nodup_cons.mp h
      -- The outcomes after this one leave its key alone, because none of them has it.
      rw [List.foldl_cons, ih hrest]
      by_cases hkey : outcome.1 = key
      · have hnone : Assoc.get? key rest = none := Assoc.get?_eq_none_iff.mpr (hkey ▸ hfirst)
        subst hkey
        simp [hnone, Assoc.get?, get?_store_self]
      · simp [Assoc.get?, hkey, get?_store_of_ne (Ne.symm hkey)]

def checkedMembers (members : List (String × Rule)) (values : List (String × Json)) :
    List (String × Json) :=
  (checkMembers members values).foldl store values

theorem closeRecord_value (members : List (String × Rule)) (values : List (String × Json)) :
    (closeRecord values (checkMembers members values)).value =
      some (.obj (checkedMembers members values)) := rfl

theorem get?_checkedMembers {members : List (String × Rule)} (h : (Assoc.keys members).Nodup)
    (key : String) (values : List (String × Json)) :
    Assoc.get? key (checkedMembers members values) =
      match Assoc.get? key members with
      | some rule => (check rule (Assoc.get? key values)).value
      | none => Assoc.get? key values := by
  rw [checkedMembers, get?_foldl_store (by rwa [keys_checkMembers]), get?_checkMembers]
  cases Assoc.get? key members <;> rfl

/-! ### Lists -/

theorem check_anyItems_arr (label : String) (items : List Json) :
    check (.list label none) (some (.arr items)) = .good (some (.arr items)) := by
  simp [check, isMissing]

theorem check_items_arr (label : String) (rule : Rule) (items : List Json) :
    check (.list label (some rule)) (some (.arr items)) =
      closeList (items.map fun item => (item, check rule (some item))) := by
  simp [check, isMissing]

theorem check_list_of_missing (label : String) (element : Option Rule) {input : Option Json}
    (h : isMissing input) : check (.list label element) input = .good (some (.arr [])) := by
  unfold check
  exact if_pos h

theorem closeList_issues_eq_nil_iff {outcomes : List (Json × Checked)} :
    (closeList outcomes).issues = [] ↔ ∀ outcome ∈ outcomes, outcome.2.issues = [] := by
  simp only [closeList, List.flatMap_eq_nil_iff, List.map_eq_nil_iff]
  constructor
  · intro h outcome hmem
    obtain ⟨i, hi, rfl⟩ := List.getElem_of_mem hmem
    exact h (outcomes[i], i) (List.mem_zipIdx_iff_getElem?.mpr (by simp [hi]))
  · rintro h ⟨outcome, i⟩ hmem
    exact h outcome (List.mem_of_getElem? (List.mem_zipIdx_iff_getElem?.mp hmem))

theorem closeList_value (rule : Rule) (items : List Json) :
    (closeList (items.map fun item => (item, check rule (some item)))).value =
      some (.arr (items.map fun item => (check rule (some item)).value.getD item)) := by
  simp [closeList]

theorem check_list_issues_eq_nil_iff {label : String} {element : Option Rule}
    {input : Option Json} :
    (check (.list label element) input).issues = [] ↔
      isMissing input ∨ ∃ items, input = some (.arr items) ∧
        ∀ rule, element = some rule → ∀ item ∈ items, (check rule (some item)).issues = [] := by
  match input with
  | none | some .null => simp [check, isMissing]
  | some (.arr items) =>
      cases element with
      | none => simp [check, isMissing]
      | some rule => simp [check_items_arr, closeList_issues_eq_nil_iff, isMissing]
  | some (.bool _) | some (.num _) | some (.str _) | some (.obj _) => simp [check, isMissing]

/-! ### Checks by two rules -/

section Related

variable {R : Checked → Checked → Prop} {label label' : String}

/-- The outcomes of two object checks are related if those for what is missing, for the members and
for what is no object are. -/
theorem related_checkObject {members members' : List (String × Rule)} {required required' : Bool}
    (missing : ∀ input, R (checkMissing label required input) (checkMissing label' required' input))
    (object : ∀ values, R (closeRecord values (checkMembers members values))
      (closeRecord values (checkMembers members' values)))
    (shape : R (.fault label .wrongShape none) (.fault label' .wrongShape none))
    (input : Option Json) :
    R (checkObject label members required input) (checkObject label' members' required' input) := by
  unfold checkObject
  split
  · exact missing input
  · split
    · exact object _
    · exact shape

theorem related_check_list {element element' : Option Rule}
    (missing : R (.good (some (.arr []))) (.good (some (.arr []))))
    (items : ∀ items, R (check (.list label element) (some (.arr items)))
      (check (.list label' element') (some (.arr items))))
    (shape : R (.fault label .wrongShape none) (.fault label' .wrongShape none))
    (input : Option Json) :
    R (check (.list label element) input) (check (.list label' element') input) := by
  match input with
  | none | some .null =>
      rw [check_list_of_missing label _ rfl, check_list_of_missing label' _ rfl]
      exact missing
  | some (.arr values) => exact items values
  | some (.bool _) | some (.num _) | some (.str _) | some (.obj _) =>
      simp only [check, isMissing]
      exact shape

end Related

/-! ### Verdicts -/

@[simp] theorem issues_ofChecked (outcome : Checked) :
    (ofChecked outcome).issues = outcome.issues := by
  rw [ofChecked]
  split
  · next hnone => exact (List.isEmpty_iff.mp hnone).symm
  · rfl

theorem ofChecked_eq_accepted_iff {outcome : Checked} {value : Json} :
    ofChecked outcome = .accepted value ↔
      outcome.issues = [] ∧ outcome.value.getD .null = value := by
  rw [ofChecked, ← List.isEmpty_iff]
  split
  · next hnone => simp [hnone]
  · next hsome => simp [hsome]

/-- Two outcomes lead to the same value if they are without issues together and then agree on it. -/
theorem ofChecked_eq_accepted_congr {a b : Checked} (hissues : a.issues = [] ↔ b.issues = [])
    (hvalue : a.issues = [] → a.value = b.value) (value : Json) :
    ofChecked a = .accepted value ↔ ofChecked b = .accepted value := by
  rw [ofChecked_eq_accepted_iff, ofChecked_eq_accepted_iff, ← hissues]
  refine and_congr_right fun hnone => ?_
  rw [hvalue hnone]

theorem isAccepted_ofChecked (outcome : Checked) :
    (ofChecked outcome).isAccepted ↔ outcome.issues = [] := by
  rw [ofChecked, ← List.isEmpty_iff]
  split
  · next hnone => simp [hnone, isAccepted]
  · next hsome => simp [hsome, isAccepted]

/-! ### Whole documents -/

theorem validate_obj (members : List (String × Rule)) (values : List (String × Json)) :
    CompiledSchema.validate ⟨members⟩ (.obj values) =
      ofChecked (closeRecord values (checkMembers members values)) := by
  rw [CompiledSchema.validate, CompiledSchema.root, check_record]
  rfl

end Validation

theorem CompiledSchema.isAccepted_iff (schema : CompiledSchema) (document : Json) :
    (schema.validate document).isAccepted ↔ (schema.validate document).issues = [] := by
  rw [validate]
  split
  · rw [Validation.isAccepted_ofChecked, Validation.issues_ofChecked]
  · simp [Validation.isAccepted, Validation.issues]

/-- A document is accepted if it is an object whose members have no issues, and then it is stored
with the members that the rules gave. -/
theorem CompiledSchema.validate_eq_accepted_iff {schema : CompiledSchema} {document value : Json} :
    schema.validate document = .accepted value ↔
      ∃ values, document = .obj values ∧
        (∀ id rule, (id, rule) ∈ schema.members →
          (Validation.check rule (Assoc.get? id values)).issues = []) ∧
        value = .obj (Validation.checkedMembers schema.members values) := by
  cases document with
  | obj values =>
      have hissues := Validation.closeRecord_issues_eq_nil_iff schema.members values
      simp only [validate, Json.isObject, root, Validation.check_record,
        Validation.checkObject_obj, Validation.ofChecked, List.isEmpty_iff, if_true,
        Json.obj.injEq, exists_eq_left', ← hissues]
      split
      · next hnone => simp [hnone, Validation.closeRecord_value, eq_comm]
      · next hsome => simp [hsome]
  | _ => simp [validate, Json.isObject]

end ContentForms

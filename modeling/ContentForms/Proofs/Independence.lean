import ContentForms.Proofs.Normalization
import ContentForms.Proofs.Sections
import Mathlib.Data.List.Perm.Basic

/-!
Fields do not interfere with each other. A check goes through the members of an object one after the
other and enters each of them into the same object, but what it finds at one key depends on the
value under that key alone, and what it enters there is seen under that key alone. So the fields of
a list could as well be run each by itself, and siblings may stand in any order. The order is left
to be seen in one place, the order of the issues.

Entering members does not commute with erasing them where objects are out of order. But a member is
erased only if it has an issue or is not there, so wherever a document is accepted nothing is erased
at all; this is why what is stored is the same in every order, whatever the document is like.
-/

namespace ContentForms

inductive DistinctSiblings : List FieldDescriptor → Prop
  | intro {fields : List FieldDescriptor} (here : (fields.map FieldDescriptor.id).Nodup)
      (inside : ∀ field ∈ fields, DistinctSiblings field.fields) : DistinctSiblings fields

/-- The same fields, with siblings in another order: those of one list, here or inside a field, and
of any number of lists one after the other. -/
inductive Rearranged : List FieldDescriptor → List FieldDescriptor → Prop
  | siblings {fields fields' : List FieldDescriptor} (h : fields.Perm fields') :
      Rearranged fields fields'
  | inside (before : List FieldDescriptor) (field : FieldDescriptor) (after : List FieldDescriptor)
      {nested : List FieldDescriptor} (h : Rearranged field.fields nested) :
      Rearranged (before ++ field :: after) (before ++ { field with fields := nested } :: after)
  | trans {fields fields' fields'' : List FieldDescriptor} (h : Rearranged fields fields')
      (h' : Rearranged fields' fields'') : Rearranged fields fields''

namespace Rearranged

variable {fields fields' : List FieldDescriptor}

theorem isEmpty_eq (h : Rearranged fields fields') : fields.isEmpty = fields'.isEmpty := by
  induction h with
  | siblings h => exact h.isEmpty_eq
  | inside before => cases before <;> rfl
  | trans _ _ ih ih' => exact ih.trans ih'

theorem distinct (h : Rearranged fields fields') (hdistinct : DistinctSiblings fields) :
    DistinctSiblings fields' := by
  induction h with
  | siblings h =>
      obtain ⟨here, inside⟩ := hdistinct
      refine .intro ((h.map FieldDescriptor.id).nodup_iff.mp here) ?_
      exact fun field hmem => inside field (h.mem_iff.mpr hmem)
  | inside before field after _ ih =>
      obtain ⟨here, inside⟩ := hdistinct
      refine .intro (by simpa using here) ?_
      intro other hmem
      rcases List.mem_append.mp hmem with hbefore | hmem
      · exact inside other (List.mem_append_left _ hbefore)
      · rcases List.mem_cons.mp hmem with rfl | hafter
        · exact ih (inside field (List.mem_append_right _ List.mem_cons_self))
        · exact inside other (List.mem_append_right _ (List.mem_cons_of_mem _ hafter))
  | trans _ _ ih ih' => exact ih' (ih hdistinct)

end Rearranged

/-! ### Outcomes up to the order of the issues -/

/-- The same issues in any order, and without any the same value. -/
structure Checked.Reordered (a b : Checked) : Prop where
  issues : a.issues.Perm b.issues
  value : a.issues = [] → a.value = b.value

namespace Checked.Reordered

variable {a b c : Checked}

theorem refl (outcome : Checked) : outcome.Reordered outcome :=
  ⟨.refl _, fun _ => rfl⟩

theorem issues_eq_nil (h : a.Reordered b) (hnone : a.issues = []) : b.issues = [] :=
  List.nil_perm.mp (hnone ▸ h.issues)

theorem trans (h : a.Reordered b) (h' : b.Reordered c) : a.Reordered c where
  issues := h.issues.trans h'.issues
  value hnone := (h.value hnone).trans (h'.value (h.issues_eq_nil hnone))

theorem eq_of_issues (h : a.Reordered b) (hnone : a.issues = []) : a = b := by
  obtain ⟨aValue, aIssues⟩ := a
  obtain ⟨bValue, bIssues⟩ := b
  have hissues : bIssues = [] := h.issues_eq_nil hnone
  have hvalue : aValue = bValue := h.value hnone
  have hnone : aIssues = [] := hnone
  rw [hvalue, hnone, hissues]

end Checked.Reordered

namespace Validation

variable {values : List (String × Json)}

/-! ### Members in any order -/

/-- What has no value and was not there leaves an object as it is. -/
theorem store_of_absent {outcome : String × Checked} (hvalue : outcome.2.value = none)
    (habsent : Assoc.get? outcome.1 values = none) : store values outcome = values := by
  rw [store, hvalue]
  exact Assoc.erase_of_get?_eq_none habsent

/-- Members that have a value, or were not there, can be entered in either order. -/
theorem store_comm {a b : String × Checked} (hne : a.1 ≠ b.1)
    (ha : a.2.value = none → Assoc.get? a.1 values = none)
    (hb : b.2.value = none → Assoc.get? b.1 values = none) :
    store (store values a) b = store (store values b) a := by
  cases hfirst : a.2.value with
  | none =>
      have habsent : Assoc.get? a.1 (store values b) = none :=
        (get?_store_of_ne hne values).trans (ha hfirst)
      rw [store_of_absent hfirst (ha hfirst), store_of_absent hfirst habsent]
  | some value =>
      cases hsecond : b.2.value with
      | none =>
          have habsent : Assoc.get? b.1 (store values a) = none :=
            (get?_store_of_ne hne.symm values).trans (hb hsecond)
          rw [store_of_absent hsecond habsent, store_of_absent hsecond (hb hsecond)]
      | some value' =>
          simp only [store, hfirst, hsecond]
          exact Assoc.insert_comm hne.symm value' value values

/-- So the members of an object can be entered in any order. -/
theorem foldl_store_perm {outcomes outcomes' : List (String × Checked)}
    (h : outcomes.Perm outcomes') (hdistinct : (Assoc.keys outcomes).Nodup)
    (habsent : ∀ outcome ∈ outcomes, outcome.2.value = none →
      Assoc.get? outcome.1 values = none) :
    outcomes.foldl store values = outcomes'.foldl store values := by
  induction h generalizing values with
  | nil => rfl
  | cons outcome _ ih =>
      obtain ⟨hfirst, hrest⟩ := List.nodup_cons.mp hdistinct
      obtain ⟨-, habsent⟩ := List.forall_mem_cons.mp habsent
      refine ih hrest fun other hmem hnone => ?_
      have hne : other.1 ≠ outcome.1 := fun heq =>
        hfirst (List.mem_map.mpr ⟨other, hmem, heq⟩)
      rw [get?_store_of_ne hne, habsent other hmem hnone]
  | swap a b rest =>
      have hne : b.1 ≠ a.1 := fun heq =>
        (List.nodup_cons.mp hdistinct).1 (heq ▸ List.mem_cons_self)
      rw [List.foldl_cons, List.foldl_cons, List.foldl_cons, List.foldl_cons,
        store_comm hne (habsent b (by simp)) (habsent a (by simp))]
  | trans h _ ih ih' =>
      rw [ih hdistinct habsent]
      refine ih' ((h.map Prod.fst).nodup_iff.mp hdistinct) ?_
      exact fun outcome hmem => habsent outcome (h.mem_iff.mpr hmem)

/-- The outcome for an object does not depend on the order of its members. -/
theorem reordered_closeRecord_perm {outcomes outcomes' : List (String × Checked)}
    (h : outcomes.Perm outcomes') (hdistinct : (Assoc.keys outcomes).Nodup)
    (habsent : ∀ outcome ∈ outcomes, outcome.2.issues = [] → outcome.2.value = none →
      Assoc.get? outcome.1 values = none) :
    (closeRecord values outcomes).Reordered (closeRecord values outcomes') where
  issues := h.flatMap_right _
  value hnone := by
    have heach : ∀ outcome ∈ outcomes, outcome.2.issues = [] := by
      simpa [closeRecord] using hnone
    have hvalues := foldl_store_perm h hdistinct fun outcome hmem =>
      habsent outcome hmem (heach outcome hmem)
    exact congrArg (fun members => some (Json.obj members)) hvalues

theorem reordered_closeRecord_inside (before after : List (String × Checked)) (id : String)
    {a b : Checked} (h : a.Reordered b) (values : List (String × Json)) :
    (closeRecord values (before ++ (id, a) :: after)).Reordered
      (closeRecord values (before ++ (id, b) :: after)) where
  issues := by
    simp only [closeRecord, List.flatMap_append, List.flatMap_cons]
    exact ((h.issues.map _).append_right _).append_left _
  value hnone := by
    have hissues : a.issues = [] := by
      simp only [closeRecord, List.flatMap_append, List.flatMap_cons, List.append_eq_nil_iff,
        List.map_eq_nil_iff] at hnone
      exact hnone.2.1
    rw [h.eq_of_issues hissues]

theorem reordered_closeList {items : List Json} {f g : Json → Checked}
    (h : ∀ item, (f item).Reordered (g item)) :
    (closeList (items.map fun item => (item, f item))).Reordered
      (closeList (items.map fun item => (item, g item))) where
  issues := by
    simp only [closeList, List.zipIdx_map, List.flatMap_map]
    exact List.Perm.flatMap_left _ fun entry _ => (h entry.1).issues.map _
  value hnone := by
    have heach : ∀ item ∈ items, (f item).issues = [] := by
      simpa using closeList_issues_eq_nil_iff.mp hnone
    simp only [closeList, List.map_map]
    refine congrArg (fun items => some (Json.arr items)) (List.map_congr_left fun item hmem => ?_)
    show (f item).value.getD item = (g item).value.getD item
    rw [(h item).value (heach item hmem)]

/-! ### Fields in any order -/

/-- An object is judged alike by two lists of fields. -/
def SiblingsReordered (fields fields' : List FieldDescriptor) : Prop :=
  ∀ nested values,
    (closeRecord values (checkMembers (Rule.ofSiblings fields nested) values)).Reordered
      (closeRecord values (checkMembers (Rule.ofSiblings fields' nested) values))

theorem reordered_checkObject {fields fields' : List FieldDescriptor}
    (h : SiblingsReordered fields fields') (label : String) (nested required : Bool)
    (input : Option Json) :
    (checkObject label (Rule.ofSiblings fields nested) required input).Reordered
      (checkObject label (Rule.ofSiblings fields' nested) required input) :=
  related_checkObject (R := Checked.Reordered) (fun _ => .refl _) (h nested) (.refl _) input

theorem reordered_ofField (field : FieldDescriptor) {fields : List FieldDescriptor}
    (h : SiblingsReordered field.fields fields) (hempty : field.fields.isEmpty = fields.isEmpty)
    (nested : Bool) (input : Option Json) :
    (check (Rule.ofField field nested) input).Reordered
      (check (Rule.ofField { field with fields := fields } nested) input) := by
  obtain ⟨id, label, kind, inner, options, extra⟩ := field
  cases kind <;> simp only [Rule.ofField, ← hempty]
  case object =>
    rw [check_record, check_record]
    exact reordered_checkObject h label true (!nested) input
  case list =>
    split
    · exact .refl _
    · refine related_check_list (R := Checked.Reordered) (.refl _) (fun items => ?_) (.refl _) input
      rw [check_items_arr, check_items_arr]
      refine reordered_closeList fun item => ?_
      rw [check_record, check_record]
      exact reordered_checkObject h label true true (some item)
  case media =>
    split
    · exact .refl _
    · rw [check_media, check_media]
      exact reordered_checkObject h label nested (!nested) input
  all_goals exact .refl _

end Validation

theorem Rule.ofSiblings_of_nodup {fields : List FieldDescriptor}
    (h : (fields.map FieldDescriptor.id).Nodup) (nested : Bool) :
    ofSiblings fields nested = fields.map fun field => (field.id, ofField field nested) := by
  rw [ofSiblings_eq_map, Assoc.firsts_of_nodup_keys, List.map_map]
  · rfl
  · rwa [Assoc.keys, List.map_map]

/-- A value that is gone after a check without issues was not there before. -/
theorem Validation.eq_none_of_value {rule : Rule} (h : rule.WellFormed) {input : Option Json}
    (hgood : (check rule input).issues = []) (hvalue : (check rule input).value = none) :
    input = none := by
  have hnormalized := normalized_check h hgood
  rw [hvalue] at hnormalized
  cases hnormalized <;> rfl

open Validation

theorem Rearranged.siblingsReordered {fields fields' : List FieldDescriptor}
    (h : Rearranged fields fields') (hdistinct : DistinctSiblings fields) :
    SiblingsReordered fields fields' := by
  induction h with
  | @siblings fields fields' h =>
      intro nested values
      obtain ⟨here, -⟩ := hdistinct
      have here' := (h.map FieldDescriptor.id).nodup_iff.mp here
      rw [checkMembers_eq_map, checkMembers_eq_map, Rule.ofSiblings_of_nodup here,
        Rule.ofSiblings_of_nodup here', List.map_map, List.map_map]
      refine reordered_closeRecord_perm (h.map _) ?_ ?_
      · rwa [Assoc.keys, List.map_map]
      · intro outcome hmem hgood hnone
        obtain ⟨field, -, rfl⟩ := List.mem_map.mp hmem
        exact eq_none_of_value (Rule.wellFormed_ofField field nested) hgood hnone
  | inside before field after h ih =>
      intro nested values
      have hdistinct' := (Rearranged.inside before field after h).distinct hdistinct
      obtain ⟨here, inside⟩ := hdistinct
      obtain ⟨here', -⟩ := hdistinct'
      rw [checkMembers_eq_map, checkMembers_eq_map, Rule.ofSiblings_of_nodup here,
        Rule.ofSiblings_of_nodup here', List.map_map, List.map_map, List.map_append,
        List.map_append, List.map_cons, List.map_cons]
      refine reordered_closeRecord_inside _ _ field.id ?_ values
      exact reordered_ofField field (ih (inside field (by simp))) h.isEmpty_eq nested _
  | trans h _ ih ih' =>
      exact fun nested values => (ih hdistinct nested values).trans
        (ih' (h.distinct hdistinct) nested values)

theorem Checked.Reordered.ofChecked {a b : Checked} (h : a.Reordered b) :
    (∀ value, ofChecked a = .accepted value ↔ ofChecked b = .accepted value) ∧
      (ofChecked a).issues.Perm (ofChecked b).issues := by
  have hnone : a.issues = [] ↔ b.issues = [] :=
    ⟨h.issues_eq_nil, fun hb => List.perm_nil.mp (hb ▸ h.issues)⟩
  refine ⟨ofChecked_eq_accepted_congr hnone h.value, ?_⟩
  rw [issues_ofChecked, issues_ofChecked]
  exact h.issues

/-! ### Each field by itself -/

theorem Checked.issues_ofMember (key : String) (verdict : Validation) :
    (Checked.ofMember key verdict).issues = verdict.issues := by
  cases verdict <;> rfl

namespace CompiledSchema

variable {fields : List FieldDescriptor}

/-- The outcomes for the keys of fields, from runs with one field each. -/
def eachAlone (fields : List FieldDescriptor) (values : List (String × Json)) :
    List (String × Checked) :=
  fields.map fun field =>
    (field.id, .ofMember field.id ((ofFields [field]).validate (.obj values)))

theorem keys_eachAlone (fields : List FieldDescriptor) (values : List (String × Json)) :
    Assoc.keys (eachAlone fields values) = fields.map FieldDescriptor.id := by
  rw [Assoc.keys, eachAlone, List.map_map]
  rfl

/-- The verdict on an object is put together from those of runs with one field each. -/
theorem validate_eq_together (hids : (fields.map FieldDescriptor.id).Nodup)
    (values : List (String × Json)) :
    (ofFields fields).validate (.obj values) = .together values (eachAlone fields values) := by
  rw [ofFields, validate_obj]
  apply SeenMembers.ofChecked_closeRecord
  rw [SeenMembers, eachAlone, checkMembers_eq_map, Rule.ofSiblings_of_nodup hids, List.map_map,
    List.forall₂_map_left_iff, List.forall₂_map_right_iff, List.forall₂_same]
  refine fun field _ => ⟨rfl, ?_⟩
  rw [ofFields, Rule.ofSiblings_singleton]
  exact seenUnder_ofMember field.id (Rule.ofField field false) values

theorem issues_eq_flatMap (hids : (fields.map FieldDescriptor.id).Nodup)
    (values : List (String × Json)) :
    ((ofFields fields).validate (.obj values)).issues = fields.flatMap fun field =>
      ((ofFields [field]).validate (.obj values)).issues := by
  rw [validate_eq_together hids, issues_together, eachAlone, List.flatMap_map]
  exact List.flatMap_congr fun field _ => Checked.issues_ofMember field.id _

theorem isAccepted_iff_forall (hids : (fields.map FieldDescriptor.id).Nodup)
    (values : List (String × Json)) :
    ((ofFields fields).validate (.obj values)).isAccepted ↔
      ∀ field ∈ fields, ((ofFields [field]).validate (.obj values)).isAccepted := by
  rw [isAccepted_iff, issues_eq_flatMap hids, List.flatMap_eq_nil_iff]
  exact forall₂_congr fun field _ => (isAccepted_iff _ (.obj values)).symm

/-- What is stored under a key is what the run with its field stores there, and what was submitted
if it has no field. -/
theorem get?_of_accepted (hids : (fields.map FieldDescriptor.id).Nodup)
    {values : List (String × Json)} {stored : Json}
    (h : (ofFields fields).validate (.obj values) = .accepted stored) :
    (∀ field ∈ fields, ∃ alone, (ofFields [field]).validate (.obj values) = .accepted alone ∧
        stored.get? field.id = alone.get? field.id) ∧
      ∀ key, key ∉ fields.map FieldDescriptor.id → stored.get? key = Assoc.get? key values := by
  have heach := (isAccepted_iff_forall hids values).mp (by rw [h]; rfl)
  have hdistinct : (Assoc.keys (eachAlone fields values)).Nodup := by rwa [keys_eachAlone]
  rw [validate_eq_together hids] at h
  obtain ⟨-, rfl⟩ := together_eq_accepted_iff.mp h
  simp only [Json.get?, get?_foldl_store hdistinct]
  constructor
  · intro field hmem
    have hget : Assoc.get? field.id (eachAlone fields values) =
        some (.ofMember field.id ((ofFields [field]).validate (.obj values))) :=
      (Assoc.get?_eq_some_iff hdistinct).mpr (List.mem_map.mpr ⟨field, hmem, rfl⟩)
    rw [hget]
    have haccepted := heach field hmem
    cases hrun : (ofFields [field]).validate (.obj values) with
    | rejected issues =>
        rw [hrun] at haccepted
        cases haccepted
    | accepted alone => exact ⟨alone, rfl, rfl⟩
  · intro key hkey
    rw [← keys_eachAlone fields values] at hkey
    rw [Assoc.get?_eq_none_iff.mpr hkey]
    rfl

theorem validate_rearranged (hdistinct : DistinctSiblings fields) {fields' : List FieldDescriptor}
    (h : Rearranged fields fields') (document : Json) :
    (∀ value, (ofFields fields).validate document = .accepted value ↔
        (ofFields fields').validate document = .accepted value) ∧
      ((ofFields fields).validate document).issues.Perm
        ((ofFields fields').validate document).issues := by
  cases document with
  | obj values =>
      rw [ofFields, ofFields, validate_obj, validate_obj]
      exact (h.siblingsReordered hdistinct false values).ofChecked
  | _ => exact ⟨fun _ => .rfl, .refl _⟩

/-- Fields with ids of their own are validated independently and in any order. The issues of a
document are those of the runs with one field each, one after the other; it is accepted if all of
these accept it, and then each field has under its key what its own run stores there. Siblings in
another order, at any depth, accept the same documents, store the same for them, and find the same
issues in some other order. -/
theorem fields_independent (hids : (fields.map FieldDescriptor.id).Nodup) :
    (∀ values : List (String × Json),
      ((ofFields fields).validate (.obj values)).issues = fields.flatMap (fun field =>
        ((ofFields [field]).validate (.obj values)).issues) ∧
      (((ofFields fields).validate (.obj values)).isAccepted ↔
        ∀ field ∈ fields, ((ofFields [field]).validate (.obj values)).isAccepted) ∧
      ∀ stored, (ofFields fields).validate (.obj values) = .accepted stored →
        (∀ field ∈ fields, ∃ alone, (ofFields [field]).validate (.obj values) = .accepted alone ∧
          stored.get? field.id = alone.get? field.id) ∧
        ∀ key, key ∉ fields.map FieldDescriptor.id → stored.get? key = Assoc.get? key values) ∧
    (DistinctSiblings fields → ∀ fields', Rearranged fields fields' → ∀ document,
      (∀ value, (ofFields fields).validate document = .accepted value ↔
        (ofFields fields').validate document = .accepted value) ∧
      ((ofFields fields).validate document).issues.Perm
        ((ofFields fields').validate document).issues) := by
  refine ⟨fun values => ?_, fun hdistinct _ h => validate_rearranged hdistinct h⟩
  exact ⟨issues_eq_flatMap hids values, isAccepted_iff_forall hids values,
    fun _ => get?_of_accepted hids⟩

/-- The details of an article: its title, and a cover with a text and a width. -/
def articleFields : List FieldDescriptor :=
  [⟨"title", "Título", .string, [], .empty, []⟩,
    ⟨"cover", "Portada", .media, [⟨"alt", "Texto", .string, [], .empty, []⟩,
      ⟨"width", "Ancho", .number, [], .empty, []⟩], .empty, []⟩]

def coverFirst : List FieldDescriptor :=
  [⟨"cover", "Portada", .media, [⟨"width", "Ancho", .number, [], .empty, []⟩,
      ⟨"alt", "Texto", .string, [], .empty, []⟩], .empty, []⟩,
    ⟨"title", "Título", .string, [], .empty, []⟩]

theorem distinctSiblings_articleFields : DistinctSiblings articleFields := by
  have hnone : DistinctSiblings [] := .intro List.nodup_nil (by simp)
  refine .intro (by decide) ?_
  simp only [articleFields, List.forall_mem_cons, List.not_mem_nil, false_implies, implies_true,
    and_true]
  refine ⟨hnone, .intro (by decide) ?_⟩
  simp only [List.forall_mem_cons, List.not_mem_nil, false_implies, implies_true, and_true]
  exact ⟨hnone, hnone⟩

theorem rearranged_articleFields : Rearranged articleFields coverFirst := by
  have hinside := Rearranged.inside [⟨"title", "Título", .string, [], .empty, []⟩]
    ⟨"cover", "Portada", .media, [⟨"alt", "Texto", .string, [], .empty, []⟩,
      ⟨"width", "Ancho", .number, [], .empty, []⟩], .empty, []⟩ [] (.siblings (.swap _ _ _))
  exact hinside.trans (.siblings (.swap _ _ _))

/-- Left blank, the article has its issues in the order of the fields; filled in, it is stored alike
by both orders, with the width as a number. -/
theorem fields_independent_article :
    let blank : List (String × Json) := [("cover", .obj []), ("title", .str "")]
    let filled : List (String × Json) :=
      [("cover", .obj [("alt", .str "Mar"), ("width", .str "640")]), ("title", .str "Costa")]
    let stored : Json := .obj
      [("cover", .obj [("alt", .str "Mar"), ("width", .num (.int 640))]), ("title", .str "Costa")]
    (articleFields.map FieldDescriptor.id).Nodup ∧ DistinctSiblings articleFields ∧
      Rearranged articleFields coverFirst ∧
      articleFields.flatMap (fun field => ((ofFields [field]).validate (.obj blank)).issues) =
        [⟨[.key "title"], "Título es requerido"⟩,
          ⟨[.key "cover", .key "alt"], "Texto es requerido"⟩,
          ⟨[.key "cover", .key "width"], "Ancho es requerido"⟩] ∧
      ((ofFields articleFields).validate (.obj blank)).issues = articleFields.flatMap (fun field =>
        ((ofFields [field]).validate (.obj blank)).issues) ∧
      ((ofFields articleFields).validate (.obj blank)).issues.Perm
        ((ofFields coverFirst).validate (.obj blank)).issues ∧
      (ofFields articleFields).validate (.obj filled) = .accepted stored ∧
      (ofFields coverFirst).validate (.obj filled) = .accepted stored := by
  intro blank filled stored
  have hids : (articleFields.map FieldDescriptor.id).Nodup := by decide
  obtain ⟨happart, hany⟩ := fields_independent hids
  have horder := hany distinctSiblings_articleFields _ rearranged_articleFields
  have hfilled : (ofFields articleFields).validate (.obj filled) = .accepted stored := by
    decide +kernel
  exact ⟨hids, distinctSiblings_articleFields, rearranged_articleFields, by decide +kernel,
    (happart blank).1, (horder (.obj blank)).2, hfilled,
    ((horder (.obj filled)).1 stored).mp hfilled⟩

end CompiledSchema

end ContentForms

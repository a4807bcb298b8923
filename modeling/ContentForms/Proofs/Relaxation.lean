import ContentForms.Proofs.Checking
import ContentForms.Proofs.Compiled
import Mathlib.Data.List.Forall2

/-!
Nesting only relaxes. A field that is nested in an object or a list is checked like the same field
at the top, except that it may be missing or left blank; so what is found wrong with it when it is
nested is found when it is not, in the same order and in the same words, and a value that passes at
the top is stored alike in both places. `Milder` says this of two outcomes. It is kept where the
outcomes for members are put together to that for an object, which matters for media values alone:
their fields are as nested as they are, while those of an object or a list are nested in any case.
-/

namespace ContentForms

/-- An outcome that is milder than another: its issues are some of those of the other one, in their
order, and where the other one has none the two give the same value. -/
structure Checked.Milder (a b : Checked) : Prop where
  issues : a.issues.Sublist b.issues
  value : b.issues = [] → a.value = b.value

namespace Checked

theorem Milder.refl (outcome : Checked) : outcome.Milder outcome :=
  ⟨.refl _, fun _ => rfl⟩

/-- An outcome without issues is milder than one with issues, whatever they are. -/
theorem milder_of_issues {a b : Checked} (ha : a.issues = []) (hb : b.issues ≠ []) :
    a.Milder b where
  issues := by
    rw [ha]
    exact List.nil_sublist _
  value h := absurd h hb

theorem Milder.eq_of_issues {a b : Checked} (h : a.Milder b) (hb : b.issues = []) : a = b := by
  obtain ⟨aValue, aIssues⟩ := a
  obtain ⟨bValue, bIssues⟩ := b
  have hissues : aIssues = [] := List.sublist_nil.mp (hb ▸ h.issues)
  have hvalue : aValue = bValue := h.value hb
  have hb : bIssues = [] := hb
  rw [hvalue, hissues, hb]

end Checked

namespace Validation

/-! ### Fields without fields of their own -/

theorem milder_checkMissing (label : String) (input : Option Json) :
    (checkMissing label false input).Milder (checkMissing label true input) := by
  apply Checked.milder_of_issues
  · rfl
  · simp [checkMissing]

theorem milder_checkText (label : String) (format : TextFormat) (input : Option Json) :
    (checkText label format false input).Milder (checkText label format true input) := by
  unfold checkText
  split
  · exact milder_checkMissing label input
  · split
    · split
      · -- An empty text counts as missing only where a text is required.
        apply Checked.milder_of_issues
        · rfl
        · simp
      · exact .refl _
    · exact .refl _

theorem milder_checkOne (label : String) (allowed : List String) (input : Option Json) :
    (checkOne label allowed false input).Milder (checkOne label allowed true input) := by
  unfold checkOne
  split
  · exact milder_checkMissing label input
  · split
    · next s _ =>
        -- The two differ on an empty text that is not itself one of the options.
        by_cases hblank : s.isEmpty ∧ s ∉ allowed
        · apply Checked.milder_of_issues
          · simp [hblank.1]
          · simp [hblank.2]
        · have hsame : (allowed.contains s || s.isEmpty && !false) = allowed.contains s := by
            by_cases hmem : s ∈ allowed
            · simp [hmem]
            · simpa [hmem] using hblank
          rw [hsame, Bool.not_true, Bool.and_false, Bool.or_false]
          exact .refl _
    · exact .refl _

theorem milder_checkMany (label : String) (allowed : List String) (input : Option Json) :
    (checkMany label allowed false input).Milder (checkMany label allowed true input) := by
  unfold checkMany
  split
  · apply Checked.milder_of_issues
    · rfl
    · simp
  · split
    · next items _ =>
        cases items with
        | nil =>
            apply Checked.milder_of_issues
            · rfl
            · simp
        | cons item rest => exact .refl _
    · exact .refl _

/-! ### Objects -/

/-- Outcomes for the same members, each milder than that for the same member on the other side. -/
def MilderMembers (outcomes outcomes' : List (String × Checked)) : Prop :=
  List.Forall₂ (fun a b => a.1 = b.1 ∧ a.2.Milder b.2) outcomes outcomes'

theorem MilderMembers.refl (outcomes : List (String × Checked)) : MilderMembers outcomes outcomes :=
  List.forall₂_same.mpr fun _ _ => ⟨rfl, .refl _⟩

theorem MilderMembers.issues {outcomes outcomes' : List (String × Checked)}
    (h : MilderMembers outcomes outcomes') (values : List (String × Json)) :
    (closeRecord values outcomes).issues.Sublist (closeRecord values outcomes').issues := by
  show (outcomes.flatMap fun entry => entry.2.issues.map (Issue.under (.key entry.1))).Sublist
    (outcomes'.flatMap fun entry => entry.2.issues.map (Issue.under (.key entry.1)))
  induction h with
  | nil => exact .slnil
  | cons hfirst _ ih =>
      obtain ⟨hid, hmilder⟩ := hfirst
      rw [List.flatMap_cons, List.flatMap_cons, hid]
      exact (hmilder.issues.map _).append ih

theorem MilderMembers.eq_of_issues {outcomes outcomes' : List (String × Checked)}
    (h : MilderMembers outcomes outcomes') (hissues : ∀ entry ∈ outcomes', entry.2.issues = []) :
    outcomes = outcomes' := by
  induction h with
  | nil => rfl
  | cons hfirst _ ih =>
      obtain ⟨hid, hmilder⟩ := hfirst
      obtain ⟨hnone, hrest⟩ := List.forall_mem_cons.mp hissues
      rw [ih hrest, Prod.ext hid (hmilder.eq_of_issues hnone)]

theorem MilderMembers.closeRecord {outcomes outcomes' : List (String × Checked)}
    (h : MilderMembers outcomes outcomes') (values : List (String × Json)) :
    (closeRecord values outcomes).Milder (closeRecord values outcomes') where
  issues := h.issues values
  value hissues := by
    have hnone : ∀ entry ∈ outcomes', entry.2.issues = [] := by
      simpa [Validation.closeRecord] using hissues
    rw [h.eq_of_issues hnone]

theorem milder_checkObject (label : String) {members members' : List (String × Rule)}
    (h : ∀ values, MilderMembers (checkMembers members values) (checkMembers members' values))
    (input : Option Json) :
    (checkObject label members false input).Milder (checkObject label members' true input) :=
  related_checkObject (R := Checked.Milder) (milder_checkMissing label)
    (fun values => (h values).closeRecord values) (.refl _) input

/-- The outcomes for siblings, once each field is known to be judged more mildly when nested. -/
theorem milderMembers_ofSiblings {fields : List FieldDescriptor}
    (h : ∀ field ∈ fields, ∀ input,
      (check (Rule.ofField field true) input).Milder (check (Rule.ofField field false) input))
    (values : List (String × Json)) :
    MilderMembers (checkMembers (Rule.ofSiblings fields true) values)
      (checkMembers (Rule.ofSiblings fields false) values) := by
  simp only [MilderMembers, checkMembers_eq_map, Rule.ofSiblings_eq_map, List.map_map,
    List.forall₂_map_left_iff, List.forall₂_map_right_iff]
  apply List.forall₂_same.mpr
  intro entry hmem
  obtain ⟨field, hfield, rfl⟩ := List.mem_map.mp (Assoc.mem_of_mem_firsts hmem)
  exact ⟨rfl, h field hfield _⟩

/-! ### Fields -/

theorem milder_ofOptions (label : String) (options : OptionSet) (input : Option Json) :
    (check (Rule.ofOptions label options true) input).Milder
      (check (Rule.ofOptions label options false) input) := by
  unfold Rule.ofOptions
  split
  · exact .refl _
  · rw [check, check]
    cases options.multiple with
    | true => exact milder_checkMany _ _ _
    | false => exact milder_checkOne _ _ _

theorem milder_ofField (field : FieldDescriptor) (input : Option Json) :
    (check (Rule.ofField field true) input).Milder (check (Rule.ofField field false) input) := by
  induction field using FieldDescriptor.induct generalizing input with
  | step id label kind fields options extra ih =>
      cases kind <;> simp only [Rule.ofField]
      case string | text | richText | url | image =>
        rw [check, check]
        exact milder_checkText _ _ _
      case number | list | other => exact .refl _
      case select => exact milder_ofOptions label options input
      case object =>
        -- The members are nested on both sides, so they are checked by the same rules.
        rw [check_record, check_record]
        exact milder_checkObject label (fun _ => .refl _) input
      case media =>
        split
        · rw [check_media, check_media]
          exact milder_checkObject label (fun _ => .refl _) input
        · rw [check_media, check_media]
          exact milder_checkObject label (milderMembers_ofSiblings ih) input

end Validation

namespace FieldDescriptor

/-- Whatever stands under the key of a field: the issues of the nested field are some of those that
the field has at the top, in the same order, and a value that has none there is stored alike by
both. -/
theorem nested_only_relaxes (field : FieldDescriptor) (input : Option Json) :
    (Validation.check (Rule.ofField field true) input).issues.Sublist
        (Validation.check (Rule.ofField field false) input).issues ∧
      ((Validation.check (Rule.ofField field false) input).issues = [] →
        (Validation.check (Rule.ofField field true) input).value =
          (Validation.check (Rule.ofField field false) input).value) := by
  have hmilder := Validation.milder_ofField field input
  exact ⟨hmilder.issues, hmilder.value⟩

def coverField : FieldDescriptor :=
  ⟨"cover", "Portada", .media,
    [⟨"alt", "Texto", .string, [], .empty, []⟩,
      ⟨"tags", "Etiquetas", .select, [], ⟨[.plain "a", .plain "b"], true⟩, []⟩,
      ⟨"width", "Ancho", .number, [], .empty, []⟩],
    .empty, []⟩

/-- Left blank, the image has three issues at the top and one when it is nested; filled in, it is
stored with its width as a number. -/
theorem nested_only_relaxes_cover :
    let blank : Json := .obj [("alt", .str ""), ("tags", .arr [])]
    let filled : Json :=
      .obj [("alt", .str "Mar"), ("tags", .arr [.str "b"]), ("width", .str "640")]
    [⟨[.key "width"], "Ancho es requerido"⟩].Sublist
        (Validation.check (Rule.ofField coverField false) (some blank)).issues ∧
      (Validation.check (Rule.ofField coverField false) (some filled)).issues = [] ∧
      (Validation.check (Rule.ofField coverField true) (some filled)).value =
        some (.obj
          [("alt", .str "Mar"), ("tags", .arr [.str "b"]), ("width", .num (.int 640))]) := by
  intro blank filled
  have hnested : (Validation.check (Rule.ofField coverField true) (some blank)).issues =
      [⟨[.key "width"], "Ancho es requerido"⟩] := by decide +kernel
  have hnone : (Validation.check (Rule.ofField coverField false) (some filled)).issues = [] := by
    decide +kernel
  have hvalue : (Validation.check (Rule.ofField coverField false) (some filled)).value =
      some (.obj [("alt", .str "Mar"), ("tags", .arr [.str "b"]), ("width", .num (.int 640))]) := by
    decide +kernel
  refine ⟨?_, hnone, ?_⟩
  · rw [← hnested]
    exact (nested_only_relaxes coverField (some blank)).1
  · rw [(nested_only_relaxes coverField (some filled)).2 hnone, hvalue]

end FieldDescriptor

end ContentForms

import ContentForms.Proofs.Independence
import ContentForms.Proofs.Outline
import ContentForms.Proofs.Paths

/-!
A summary lists the compiled rules. The compiler and the summary go through a schema each by itself,
and both decide for every field where to go on and how nested the fields below are. They agree: the
rows of a summary are the members that the compiled rules name, in the order in which a walk through
the rules comes to them, and each row has the path, the label and the strictness of its member. What
a walk meets besides is the type and the link of a media value that names no fields, which the
compiler adds.

A row gives its path as a text. The steps can be read back from it if keys are neither empty nor
`[]` and have no dots, and then no two rows have one text.
-/

namespace ContentForms

/-! ### Paths read back from words -/

/-- A key that is one step of a path in words, and not the step to the items of a list. -/
def IsPlainKey (key : String) : Prop :=
  key ≠ "" ∧ '.' ∉ key.toList ∧ key ≠ "[]"

instance (key : String) : Decidable (IsPlainKey key) :=
  inferInstanceAs (Decidable (_ ∧ _ ∧ _))

def RuleStep.ofPiece (piece : List Char) : RuleStep :=
  if piece = "[]".toList then .items else .member (String.ofList piece)

def pathOf (text : String) : List RuleStep :=
  (Text.pieces '.' text.toList).map RuleStep.ofPiece

theorem pathOf_of_isPlainKey {key : String} (h : IsPlainKey key) : pathOf key = [.member key] := by
  have hitems : key.toList ≠ "[]".toList := mt String.toList_inj.mp h.2.2
  rw [pathOf, Text.pieces_of_not_mem h.2.1, List.map_singleton, RuleStep.ofPiece, if_neg hitems,
    String.ofList_toList]

theorem pathOf_dot (text text' : String) :
    pathOf (text ++ "." ++ text') = pathOf text ++ pathOf text' := by
  have hlist : (text ++ "." ++ text').toList = text.toList ++ '.' :: text'.toList := by simp
  rw [pathOf, hlist, Text.pieces_append_mark, List.map_append]
  rfl

/-- A path from the top, with no key that could be taken for something else. -/
inductive PlainPath : List RuleStep → Prop
  | root : PlainPath []
  | member {path : List RuleStep} {key : String} (before : PlainPath path)
      (plain : IsPlainKey key) : PlainPath (path ++ [.member key])
  | items {path : List RuleStep} (before : PlainPath path) (below : path ≠ []) :
      PlainPath (path ++ [.items])

/-- A path but the empty one is written as a text that is not empty and is read back. -/
theorem PlainPath.reads {path : List RuleStep} (h : PlainPath path) (hsome : path ≠ []) :
    rowPath path ≠ "" ∧ pathOf (rowPath path) = path := by
  induction h with
  | root => exact absurd rfl hsome
  | @member path key _ plain ih =>
      rw [rowPath_append_singleton, RuleStep.under, pathUnder]
      -- At the top a key stands alone; below, a dot follows the text so far, which is not empty.
      by_cases hroot : path = []
      · subst hroot
        exact ⟨plain.1, pathOf_of_isPlainKey plain⟩
      · obtain ⟨htext, hback⟩ := ih hroot
        rw [if_neg (by simpa using htext), pathOf_dot, hback, pathOf_of_isPlainKey plain]
        exact ⟨by simp, rfl⟩
  | @items path _ below ih =>
      obtain ⟨-, hback⟩ := ih below
      have htext : rowPath (path ++ [.items]) = rowPath path ++ "." ++ "[]" := by
        rw [rowPath_append_singleton, RuleStep.under, String.append_assoc]
        rfl
      rw [htext, pathOf_dot, hback]
      exact ⟨by simp, rfl⟩

/-! ### Schemas with plain keys -/

/-- Siblings have plain ids and no two of them the same, at any depth. -/
inductive PlainSiblings : List FieldDescriptor → Prop
  | intro {fields : List FieldDescriptor} (plain : ∀ field ∈ fields, IsPlainKey field.id)
      (distinct : (fields.map FieldDescriptor.id).Nodup)
      (inside : ∀ field ∈ fields, PlainSiblings field.fields) : PlainSiblings fields

/-- The sections of a map have plain and distinct keys, and the fields in them plain and distinct
ids. The id of a field that is a section by itself is not a key. -/
inductive SectionBody.PlainlyKeyed : SectionBody → Prop
  | fieldList {fields : List FieldDescriptor} (siblings : PlainSiblings fields) :
      PlainlyKeyed (.fieldList fields)
  | oneField {field : FieldDescriptor} (inside : PlainSiblings field.fields) :
      PlainlyKeyed (.oneField field)
  | sectionMap {sections : List (String × SectionBody)}
      (plain : ∀ entry ∈ sections, IsPlainKey entry.1) (distinct : (Assoc.keys sections).Nodup)
      (each : ∀ entry ∈ sections, PlainlyKeyed entry.2) : PlainlyKeyed (.sectionMap sections)

theorem SectionBody.PlainlyKeyed.keyed {body : SectionBody} (h : body.PlainlyKeyed) :
    body.Keyed := by
  induction body using SectionBody.induct with
  | fieldList fields => exact .fieldList fields
  | oneField field => exact .oneField field
  | sectionMap sections ih =>
      cases h with
      | sectionMap _ distinct each =>
          exact .sectionMap distinct fun key body hmem => ih _ hmem (each _ hmem)

theorem SchemaDocument.keyed_of_plainlyKeyed {schema : SchemaDocument}
    (h : schema.body.PlainlyKeyed) : schema.Keyed := by
  cases schema with
  | flat fields => trivial
  | sectioned sections => exact h.keyed

theorem FieldDescriptor.find?_id_of_mem {fields : List FieldDescriptor}
    (h : (fields.map FieldDescriptor.id).Nodup) {field : FieldDescriptor} (hmem : field ∈ fields) :
    fields.find? (fun other => other.id = field.id) = some field := by
  induction fields with
  | nil => cases hmem
  | cons first rest ih =>
      rw [List.map_cons, List.nodup_cons] at h
      rcases List.mem_cons.mp hmem with rfl | hrest
      · exact List.find?_cons_of_pos (by simp)
      · have hne : first.id ≠ field.id := fun heq => h.1 (heq ▸ List.mem_map_of_mem hrest)
        rw [List.find?_cons_of_neg (by simpa using hne)]
        exact ih h.2 hrest

/-! ### The members that rules name -/

namespace Rule

mutual
/-- The paths to all members that records and media values name, depth first. What a media value has
that names no fields is not named by the schema. -/
def memberPaths : Rule → List (List RuleStep)
  | .record _ members _ => pathsOf members
  | .media _ members _ minimal => if minimal then [] else pathsOf members
  | .list _ (some element) => element.memberPaths.map (.items :: ·)
  | _ => []

def pathsOf : List (String × Rule) → List (List RuleStep)
  | [] => []
  | (id, rule) :: rest =>
      ([] :: rule.memberPaths).map (.member id :: ·) ++ pathsOf rest
end

theorem pathsOf_eq_flatMap (members : List (String × Rule)) :
    pathsOf members =
      members.flatMap fun entry => ([] :: entry.2.memberPaths).map (.member entry.1 :: ·) := by
  induction members with
  | nil => rw [pathsOf, List.flatMap_nil]
  | cons entry rest ih => rw [pathsOf, ih, List.flatMap_cons]

theorem nil_notMem_pathsOf (members : List (String × Rule)) : [] ∉ pathsOf members := by
  rw [pathsOf_eq_flatMap]
  simp

theorem nil_notMem_memberPaths (rule : Rule) : [] ∉ rule.memberPaths := by
  cases rule with
  | record _ members _ =>
      rw [memberPaths]
      exact nil_notMem_pathsOf members
  | media _ members _ minimal =>
      rw [memberPaths]
      split
      · exact List.not_mem_nil
      · exact nil_notMem_pathsOf members
  | list _ element =>
      cases element <;> simp [memberPaths]
  | _ => simp [memberPaths]

theorem nodup_pathsOf {members : List (String × Rule)} (hdistinct : (Assoc.keys members).Nodup)
    (h : ∀ id rule, (id, rule) ∈ members → rule.memberPaths.Nodup) : (pathsOf members).Nodup := by
  have hcons (step : RuleStep) : Function.Injective fun path : List RuleStep => step :: path :=
    fun _ _ heq => (List.cons.inj heq).2
  rw [pathsOf_eq_flatMap, List.nodup_flatMap]
  refine ⟨fun entry hmem => ?_, ?_⟩
  · have hbelow : ([] :: entry.2.memberPaths).Nodup :=
      List.nodup_cons.mpr ⟨entry.2.nil_notMem_memberPaths, h entry.1 entry.2 hmem⟩
    exact hbelow.map (hcons _)
  · refine (List.pairwise_map.mp hdistinct).imp ?_
    intro entry entry' hne
    rw [Function.onFun, List.disjoint_left]
    intro path hpath hpath'
    obtain ⟨rest, -, rfl⟩ := List.mem_map.mp hpath
    obtain ⟨rest', -, heq⟩ := List.mem_map.mp hpath'
    exact hne (RuleStep.member.inj (List.cons.inj heq).1).symm

theorem WellFormed.nodup_memberPaths {rule : Rule} (h : rule.WellFormed) :
    rule.memberPaths.Nodup := by
  induction h with
  | record _ _ distinct _ ih =>
      rw [memberPaths]
      exact nodup_pathsOf distinct ih
  | media _ _ minimal distinct _ ih =>
      rw [memberPaths]
      split
      · exact List.nodup_nil
      · exact nodup_pathsOf distinct ih
  | items _ _ _ ih =>
      rw [memberPaths]
      exact ih.map fun _ _ heq => (List.cons.inj heq).2
  | _ => simp [memberPaths]

theorem at?_append (rule : Rule) (path rest : List RuleStep) :
    rule.at? (path ++ rest) = (rule.at? path).bind fun inner => inner.at? rest := by
  induction path generalizing rule with
  | nil => rfl
  | cons step path ih =>
      rw [List.cons_append, at?, at?, Option.bind_assoc]
      exact congrArg _ (funext fun inner => ih inner)

end Rule

theorem Origin.at?_append (origin : Origin) (path rest : List RuleStep) :
    origin.at? (path ++ rest) = (origin.at? path).bind fun inner => inner.at? rest := by
  induction path generalizing origin with
  | nil => rfl
  | cons step path ih =>
      rw [List.cons_append, at?, at?, Option.bind_assoc]
      exact congrArg _ (funext fun inner => ih inner)

/-! ### The outline has the paths of the members -/

namespace Rule

theorem paths_flatMap {α : Type} {parts : List α} {key : α → String} {rule : α → Rule}
    {outline : α → List RuleStep → List SchemaPlace}
    (h : ∀ part ∈ parts, ∀ path, (outline part path).map SchemaPlace.path =
      ([] :: (rule part).memberPaths).map (path ++ ·)) (path : List RuleStep) :
    (parts.flatMap fun part => outline part (path ++ [.member (key part)])).map SchemaPlace.path =
      (pathsOf (parts.map fun part => (key part, rule part))).map (path ++ ·) := by
  rw [pathsOf_eq_flatMap, List.map_flatMap, List.flatMap_map, List.map_flatMap]
  refine List.flatMap_congr fun part hmem => ?_
  rw [h part hmem, List.map_map]
  exact List.map_congr_left fun rest _ => List.append_assoc path [.member (key part)] rest

end Rule

namespace FieldDescriptor

open Rule

theorem paths_outlineAll_of_each {fields : List FieldDescriptor} {nested : Bool}
    (hdistinct : (fields.map FieldDescriptor.id).Nodup) {enclosing : List FieldDescriptor}
    (h : ∀ field ∈ fields, ∀ path, (field.outline path enclosing).map SchemaPlace.path =
      ([] :: (ofField field nested).memberPaths).map (path ++ ·)) (path : List RuleStep) :
    (outlineAll fields path enclosing).map SchemaPlace.path =
      (pathsOf (ofSiblings fields nested)).map (path ++ ·) := by
  rw [outlineAll_eq_flatMap, ofSiblings_of_nodup hdistinct]
  exact paths_flatMap (fun field hmem path => h field hmem path) path

/-- The rows of a field are at the field itself and at the members that its rule names. -/
theorem paths_outline (field : FieldDescriptor) (h : PlainSiblings field.fields) (nested : Bool)
    (path : List RuleStep) (enclosing : List FieldDescriptor) :
    (field.outline path enclosing).map SchemaPlace.path =
      ([] :: (ofField field nested).memberPaths).map (path ++ ·) := by
  induction field using FieldDescriptor.induct generalizing nested path enclosing with
  | step id label kind fields options extra ih =>
      cases h with
      | intro plain distinct inside =>
          have hbelow (nested : Bool) (path : List RuleStep) (enclosing : List FieldDescriptor) :=
            paths_outlineAll_of_each distinct (fun field hmem path =>
              ih field hmem (inside field hmem) nested path enclosing) path
          cases kind <;>
            simp only [outline, ofField, List.map_cons, List.append_nil, List.map_nil]
          case object => exact congrArg _ (hbelow true _ _)
          case list =>
            -- A list that names no fields has neither rows nor rules below it.
            by_cases hnone : fields = []
            · subst hnone
              rfl
            · rw [if_neg (mt List.isEmpty_iff.mp hnone), memberPaths, memberPaths, List.map_map]
              refine congrArg _ ((hbelow true _ _).trans ?_)
              exact List.map_congr_left fun rest _ => List.append_assoc path [.items] rest
          case media =>
            by_cases hnone : fields = []
            · subst hnone
              rfl
            · rw [if_neg (mt List.isEmpty_iff.mp hnone), memberPaths]
              exact congrArg _ (hbelow nested _ _)
          case select =>
            rw [ofOptions]
            split <;> rfl
          all_goals rfl

theorem paths_outlineAll {fields : List FieldDescriptor} (h : PlainSiblings fields) (nested : Bool)
    (path : List RuleStep) (enclosing : List FieldDescriptor) :
    (outlineAll fields path enclosing).map SchemaPlace.path =
      (pathsOf (ofSiblings fields nested)).map (path ++ ·) := by
  cases h with
  | intro _ distinct inside =>
      exact paths_outlineAll_of_each distinct (fun field hmem path =>
        field.paths_outline (inside field hmem) nested path enclosing) path

end FieldDescriptor

namespace SectionBody

open Rule

theorem paths_outlineAll_of_each {sections : List (String × SectionBody)}
    (h : ∀ entry ∈ sections, ∀ path, (entry.2.outline path).map SchemaPlace.path =
      ([] :: (ofBody entry.2 entry.1).memberPaths).map (path ++ ·)) (path : List RuleStep) :
    (outlineAll sections path).map SchemaPlace.path =
      (pathsOf (ofBodies sections)).map (path ++ ·) := by
  rw [outlineAll_eq_flatMap, ofBodies_eq_map]
  exact paths_flatMap h path

theorem paths_outline (body : SectionBody) (h : body.PlainlyKeyed) (key : String)
    (path : List RuleStep) :
    (body.outline path).map SchemaPlace.path =
      ([] :: (ofBody body key).memberPaths).map (path ++ ·) := by
  induction body using SectionBody.induct generalizing key path with
  | fieldList fields =>
      cases h with
      | fieldList siblings =>
          rw [outline, ofBody, memberPaths, List.map_cons, List.map_cons, List.append_nil]
          exact congrArg _ (FieldDescriptor.paths_outlineAll siblings false path [])
  | oneField field =>
      cases h with
      | oneField inside =>
          rw [outline, ofBody]
          exact field.paths_outline inside false path []
  | sectionMap sections ih =>
      cases h with
      | sectionMap _ _ each =>
          rw [outline, ofBody, memberPaths, List.map_cons, List.map_cons, List.append_nil]
          exact congrArg _ (paths_outlineAll_of_each
            (fun entry hmem path => ih entry hmem (each entry hmem) entry.1 path) path)

end SectionBody

theorem SchemaDocument.paths_outline {schema : SchemaDocument} (h : schema.body.PlainlyKeyed) :
    schema.outline.map SchemaPlace.path = schema.compile.root.memberPaths := by
  have hroot : schema.compile.root.memberPaths = Rule.pathsOf schema.compile.members := by
    rw [CompiledSchema.root, Rule.memberPaths]
  cases schema with
  | flat fields =>
      cases h with
      | fieldList siblings =>
          rw [hroot, outline, FieldDescriptor.paths_outlineAll siblings false]
          exact List.map_id _
  | sectioned sections =>
      cases h with
      | sectionMap _ _ each =>
          rw [hroot, outline, SectionBody.paths_outlineAll_of_each fun entry hmem path =>
            entry.2.paths_outline (each entry hmem) entry.1 path]
          exact List.map_id _

/-! ### The schema and the rules at the end of a path -/

/-- What a row says of a part of a schema and of the rule that is compiled from it. -/
inductive SummaryRow.Describes : SummaryRow → Origin → Rule → Prop
  | field (path : String) (field : FieldDescriptor) (enclosing : List FieldDescriptor) :
      Describes ⟨path, field.kind.name, field.label, !onlyMedia enclosing⟩ (.inside field enclosing)
        (Rule.ofField field (!onlyMedia enclosing))
  | fieldList (path key : String) (fields : List FieldDescriptor) :
      Describes (.ofSection key path) (.fieldList fields)
        (.record key (Rule.ofSiblings fields false) true)
  | sectionMap (path key : String) (sections : List (String × SectionBody)) :
      Describes (.ofSection key path) (.sectionMap sections)
        (.record key (Rule.ofBodies sections) true)

/-- The part is at its path in the schema, and the rule there in the compiled rules. -/
structure SchemaDocument.Has (schema : SchemaDocument) (place : SchemaPlace) (rule : Rule) :
    Prop where
  plain : PlainPath place.path
  origin : schema.origin? place.path = some place.origin
  rule : schema.compile.root.at? place.path = some rule

def SchemaDocument.Lists (schema : SchemaDocument) (place : SchemaPlace) : Prop :=
  place.path ≠ [] ∧ ∃ rule, schema.Has place rule ∧ place.row.Describes place.origin rule

namespace SchemaDocument.Has

variable {schema : SchemaDocument} {path : List RuleStep} {origin inner : Origin}
  {rule ruleInner : Rule}

theorem top (schema : SchemaDocument) :
    schema.Has ⟨[], .ofBody schema.body⟩ schema.compile.root :=
  ⟨.root, rfl, rfl⟩

theorem step (h : schema.Has ⟨path, origin⟩ rule) {step : RuleStep}
    (hplain : PlainPath (path ++ [step])) (horigin : origin.below? step = some inner)
    (hrule : rule.below? step = some ruleInner) :
    schema.Has ⟨path ++ [step], inner⟩ ruleInner where
  plain := hplain
  origin := by
    have hpath : (Origin.ofBody schema.body).at? path = some origin := h.origin
    rw [SchemaDocument.origin?, Origin.at?_append, hpath, Option.bind_some, Origin.at?, horigin]
    rfl
  rule := by
    rw [Rule.at?_append, h.rule, Option.bind_some, Rule.at?, hrule]
    rfl

/-- From an object to its fields, which the compiler finds by their ids. -/
theorem sibling (h : schema.Has ⟨path, origin⟩ rule) {fields enclosing : List FieldDescriptor}
    (hfields : PlainSiblings fields)
    (horigin : ∀ id, origin.below? (.member id) = Origin.ofFirst? id fields enclosing)
    (hrule : rule.members = Rule.ofSiblings fields (!onlyMedia enclosing))
    {field : FieldDescriptor} (hmem : field ∈ fields) :
    schema.Has ⟨path ++ [.member field.id], .inside field enclosing⟩
      (Rule.ofField field (!onlyMedia enclosing)) := by
  cases hfields with
  | intro plain distinct _ =>
      have hfind := FieldDescriptor.find?_id_of_mem distinct hmem
      refine h.step (.member h.plain (plain field hmem)) ?_ ?_
      · rw [horigin, Origin.ofFirst?, hfind]
        rfl
      · rw [Rule.below?, hrule, Rule.get?_ofSiblings, hfind]
        rfl

end SchemaDocument.Has

namespace SchemaDocument

variable {schema : SchemaDocument}

/-- That a field and all below it are listed where they are in the schema. -/
def ListsField (schema : SchemaDocument) (field : FieldDescriptor) : Prop :=
  ∀ path enclosing, path ≠ [] →
    schema.Has ⟨path, .inside field enclosing⟩ (Rule.ofField field (!onlyMedia enclosing)) →
    ∀ place ∈ field.outline path enclosing, schema.Lists place

theorem lists_outlineAll_of_each {fields enclosing : List FieldDescriptor} {path : List RuleStep}
    {origin : Origin} {rule : Rule} (heach : ∀ field ∈ fields, schema.ListsField field)
    (hfields : PlainSiblings fields) (h : schema.Has ⟨path, origin⟩ rule)
    (horigin : ∀ id, origin.below? (.member id) = Origin.ofFirst? id fields enclosing)
    (hrule : rule.members = Rule.ofSiblings fields (!onlyMedia enclosing)) :
    ∀ place ∈ FieldDescriptor.outlineAll fields path enclosing, schema.Lists place := by
  intro place hmem
  rw [FieldDescriptor.outlineAll_eq_flatMap, List.mem_flatMap] at hmem
  obtain ⟨field, hfield, hplace⟩ := hmem
  exact heach field hfield _ _ (by simp) (h.sibling hfields horigin hrule hfield) place hplace

theorem listsField (schema : SchemaDocument) (field : FieldDescriptor)
    (hfields : PlainSiblings field.fields) : schema.ListsField field := by
  induction field using FieldDescriptor.induct with
  | step id label kind fields options extra ih =>
      intro path enclosing hsome h
      have hself : schema.Lists
          ⟨path, .inside ⟨id, label, kind, fields, options, extra⟩ enclosing⟩ :=
        ⟨hsome, _, h, .field _ _ _⟩
      have heach : ∀ field ∈ fields, schema.ListsField field := by
        cases hfields with
        | intro _ _ inside => exact fun field hmem => ih field hmem (inside field hmem)
      -- The fields below are not nested only if this is a media value and not nested either.
      have honly : onlyMedia (⟨id, label, kind, fields, options, extra⟩ :: enclosing) =
          (decide (kind = .media) && onlyMedia enclosing) := rfl
      cases kind <;> simp only [FieldDescriptor.outline] <;>
        refine List.forall_mem_cons.mpr ⟨hself, ?_⟩
      case object =>
        exact lists_outlineAll_of_each heach hfields h (fun _ => rfl) (by rw [honly]; rfl)
      case list =>
        by_cases hnone : fields = []
        · subst hnone
          exact fun _ hmem => absurd hmem List.not_mem_nil
        · have hrow : schema.Has ⟨path ++ [.items],
              .row ⟨id, label, .list, fields, options, extra⟩ enclosing⟩
              (.record label (Rule.ofSiblings fields true) true) := by
            refine h.step (.items h.plain hsome) (if_neg hnone) ?_
            rw [Rule.ofField, if_neg (mt List.isEmpty_iff.mp hnone)]
            rfl
          exact lists_outlineAll_of_each heach hfields hrow (fun _ => rfl) (by rw [honly]; rfl)
      case media =>
        by_cases hnone : fields = []
        · subst hnone
          exact fun _ hmem => absurd hmem List.not_mem_nil
        · refine lists_outlineAll_of_each heach hfields h (fun _ => if_neg hnone) ?_
          rw [honly, Rule.ofField, if_neg (mt List.isEmpty_iff.mp hnone)]
          rfl
      all_goals exact fun _ hmem => absurd hmem List.not_mem_nil

theorem lists_outlineAll {fields enclosing : List FieldDescriptor} {path : List RuleStep}
    {origin : Origin} {rule : Rule} (hfields : PlainSiblings fields)
    (h : schema.Has ⟨path, origin⟩ rule)
    (horigin : ∀ id, origin.below? (.member id) = Origin.ofFirst? id fields enclosing)
    (hrule : rule.members = Rule.ofSiblings fields (!onlyMedia enclosing)) :
    ∀ place ∈ FieldDescriptor.outlineAll fields path enclosing, schema.Lists place := by
  have heach : ∀ field ∈ fields, schema.ListsField field := by
    cases hfields with
    | intro _ _ inside => exact fun field hmem => schema.listsField field (inside field hmem)
  exact lists_outlineAll_of_each heach hfields h horigin hrule

/-- That a section and all below it are listed where they are in the schema. -/
def ListsBody (schema : SchemaDocument) (body : SectionBody) : Prop :=
  ∀ path key, schema.Has ⟨path ++ [.member key], .ofBody body⟩ (Rule.ofBody body key) →
    ∀ place ∈ body.outline (path ++ [.member key]), schema.Lists place

theorem lists_sections_of_each {sections : List (String × SectionBody)} {path : List RuleStep}
    {rule : Rule} (heach : ∀ entry ∈ sections, schema.ListsBody entry.2)
    (hplain : ∀ entry ∈ sections, IsPlainKey entry.1) (hdistinct : (Assoc.keys sections).Nodup)
    (h : schema.Has ⟨path, .sectionMap sections⟩ rule)
    (hrule : rule.members = Rule.ofBodies sections) :
    ∀ place ∈ SectionBody.outlineAll sections path, schema.Lists place := by
  intro place hmem
  rw [SectionBody.outlineAll_eq_flatMap, List.mem_flatMap] at hmem
  obtain ⟨⟨key, body⟩, hentry, hplace⟩ := hmem
  refine heach _ hentry path key (h.step (.member h.plain (hplain _ hentry)) ?_ ?_) place hplace
  · rw [Origin.below?, (Assoc.get?_eq_some_iff hdistinct).mpr hentry]
    rfl
  · rw [← Rule.keys_ofBodies] at hdistinct
    rw [Rule.below?, hrule, Assoc.get?_eq_some_iff hdistinct, Rule.mem_ofBodies_iff]
    exact ⟨body, hentry, rfl⟩

theorem listsBody (schema : SchemaDocument) (body : SectionBody) (hbody : body.PlainlyKeyed) :
    schema.ListsBody body := by
  induction body using SectionBody.induct with
  | fieldList fields =>
      intro path key h
      cases hbody with
      | fieldList siblings =>
          rw [Rule.ofBody] at h
          have hrow : SummaryRow.Describes
              (SchemaPlace.row ⟨path ++ [.member key], .fieldList fields⟩) (.fieldList fields)
              (.record key (Rule.ofSiblings fields false) true) := by
            rw [SectionBody.row_heading path key (by simp)]
            exact .fieldList _ _ _
          rw [SectionBody.outline]
          exact List.forall_mem_cons.mpr ⟨⟨by simp, _, h, hrow⟩,
            lists_outlineAll siblings h (fun _ => rfl) rfl⟩
  | oneField field =>
      intro path key h
      cases hbody with
      | oneField inside =>
          rw [Rule.ofBody] at h
          rw [SectionBody.outline]
          exact schema.listsField field inside _ _ (by simp) h
  | sectionMap sections ih =>
      intro path key h
      cases hbody with
      | sectionMap plain distinct each =>
          rw [Rule.ofBody] at h
          have hrow : SummaryRow.Describes
              (SchemaPlace.row ⟨path ++ [.member key], .sectionMap sections⟩) (.sectionMap sections)
              (.record key (Rule.ofBodies sections) true) := by
            rw [SectionBody.row_heading path key (by simp)]
            exact .sectionMap _ _ _
          rw [SectionBody.outline]
          exact List.forall_mem_cons.mpr ⟨⟨by simp, _, h, hrow⟩,
            lists_sections_of_each (fun entry hmem => ih entry hmem (each entry hmem)) plain
              distinct h rfl⟩

theorem lists_outline (h : schema.body.PlainlyKeyed) :
    ∀ place ∈ schema.outline, schema.Lists place := by
  have htop := Has.top schema
  cases schema with
  | flat fields =>
      cases h with
      | fieldList siblings => exact lists_outlineAll siblings htop (fun _ => rfl) rfl
  | sectioned sections =>
      cases h with
      | sectionMap plain distinct each =>
          exact lists_sections_of_each
            (fun entry hmem => listsBody _ entry.2 (each entry hmem)) plain distinct htop rfl

/-- A summary lists the members that the compiled rules name, in order and each once, apart from
those of a media value that names no fields. The path of a row, read back from its text, leads to
the part of the schema that the row is about and to its rule; and that of a field is the rule that
the field has when it is as nested as the row says. -/
theorem summary_lists_members (h : schema.body.PlainlyKeyed) :
    (schema.summary.map fun row => pathOf row.path) = schema.compile.root.memberPaths ∧
      (schema.summary.map SummaryRow.path).Nodup ∧
      ∀ row ∈ schema.summary, ∃ origin rule, schema.origin? (pathOf row.path) = some origin ∧
        schema.compile.root.at? (pathOf row.path) = some rule ∧ row.Describes origin rule := by
  have hlists := lists_outline h
  have hreads : ∀ place ∈ schema.outline, pathOf place.row.path = place.path := by
    intro place hmem
    obtain ⟨hsome, rule, hhas, -⟩ := hlists place hmem
    rw [SchemaPlace.path_row]
    exact (hhas.plain.reads hsome).2
  have hpaths : (schema.summary.map fun row => pathOf row.path) =
      schema.compile.root.memberPaths := by
    rw [summary_eq_map_outline, List.map_map, ← paths_outline h]
    exact List.map_congr_left hreads
  refine ⟨hpaths, ?_, fun row hrow => ?_⟩
  · have hnodup : ((schema.summary.map SummaryRow.path).map pathOf).Nodup := by
      rw [List.map_map]
      exact hpaths ▸ (wellFormed_root (keyed_of_plainlyKeyed h)).nodup_memberPaths
    exact hnodup.of_map _
  · rw [summary_eq_map_outline, List.mem_map] at hrow
    obtain ⟨place, hmem, rfl⟩ := hrow
    obtain ⟨-, rule, hhas, hrow⟩ := hlists place hmem
    rw [hreads place hmem]
    exact ⟨place.origin, rule, hhas.origin, hhas.rule, hrow⟩

/-- A title and a cover, which names no fields, and entries with a link each. -/
def menuSchema : SchemaDocument :=
  .sectioned [
    ("meta", .fieldList [⟨"title", "Title", .string, [], .empty, []⟩,
      ⟨"cover", "Cover", .media, [], .empty, []⟩]),
    ("navigation", .oneField ⟨"menu", "Menu", .list,
      [⟨"href", "Link", .url, [], .empty, []⟩], .empty, []⟩)]

theorem plainlyKeyed_menuSchema : menuSchema.body.PlainlyKeyed := by
  have hleaf : PlainSiblings [] := .intro (by simp) (by simp) (by simp)
  refine .sectionMap (by decide) (by decide) (List.forall_mem_cons.mpr ⟨?_, ?_⟩)
  · exact .fieldList (.intro (by decide) (by decide) (by simp [hleaf]))
  · rw [List.forall_mem_singleton]
    exact .oneField (.intro (by decide) (by decide) (by simp [hleaf]))

theorem summary_lists_members_menu :
    menuSchema.body.PlainlyKeyed ∧
      menuSchema.compile.root.memberPaths = [[.member "meta"], [.member "meta", .member "title"],
        [.member "meta", .member "cover"], [.member "navigation"],
        [.member "navigation", .items, .member "href"]] ∧
      ∃ origin rule,
        menuSchema.origin? [.member "navigation", .items, .member "href"] = some origin ∧
          menuSchema.compile.root.at? [.member "navigation", .items, .member "href"] = some rule ∧
          SummaryRow.Describes ⟨"navigation.[].href", "url", "Link", true⟩ origin rule := by
  obtain ⟨hpaths, -, hrows⟩ := summary_lists_members plainlyKeyed_menuSchema
  exact ⟨plainlyKeyed_menuSchema, hpaths.symm.trans (by decide),
    hrows ⟨"navigation.[].href", "url", "Link", true⟩ (by decide)⟩

end SchemaDocument

end ContentForms

import ContentForms.Proofs.ByteOrder
import ContentForms.Proofs.Normalization
import ContentForms.Proofs.Paths
import ContentForms.Proofs.Visits
import ContentForms.Validation.Report

/-!
What the issues of a document say and how they are reported. Every issue stands for a place that the
check comes to, and no two for one place. A report groups the issues by their dotted locations and
keeps all their messages: under each path they are in the order in which they were found, and only
how issues of different paths stood among each other is forgotten. Two locations can have one dotted
text, `a.b` being either two keys or one that contains a dot, or two steps where the second is a key
or a position; but the places of one document agree on what is a key and what is a position, so only
dots in keys can bring two of them together. Where no key of a schema has one, a report has a path
for every issue, with its message and no other.
-/

namespace ContentForms

/-! ### Dotted locations -/

namespace Text

theorem pieces_intercalate {mark : Char} {texts : List (List Char)} (hsome : texts ≠ [])
    (h : ∀ cs ∈ texts, mark ∉ cs) : pieces mark (List.intercalate [mark] texts) = texts := by
  induction texts with
  | nil => exact absurd rfl hsome
  | cons cs rest ih =>
      obtain ⟨hcs, hrest⟩ := List.forall_mem_cons.mp h
      cases rest with
      | nil => simp [pieces_of_not_mem hcs]
      | cons next more =>
          have hjoin : List.intercalate [mark] (cs :: next :: more) =
              cs ++ mark :: List.intercalate [mark] (next :: more) := by
            simp [List.intercalate]
          rw [hjoin, pieces_append_mark, pieces_of_not_mem hcs, ih (by simp) hrest]
          rfl

end Text

namespace Location

def Undotted (location : Location) : Prop :=
  ∀ step ∈ location, '.' ∉ step.text.toList

theorem pieces_dotted {location : Location} (hsome : location ≠ .root) (h : location.Undotted) :
    Text.pieces '.' location.dotted.toList = (location.map Step.text).map String.toList := by
  have hdotted : location.dotted.toList =
      List.intercalate ['.'] ((location.map Step.text).map String.toList) := by
    rw [dotted, String.toList_intercalate]
    rfl
  rw [hdotted, Text.pieces_intercalate]
  · simpa [Location.root] using hsome
  · simpa [Undotted] using h

/-- The steps of a location can be read back from its dotted text, as texts. -/
theorem texts_eq_of_dotted_eq {a b : Location} (ha : a ≠ .root) (hb : b ≠ .root)
    (hundotted : a.Undotted) (hundotted' : b.Undotted) (h : a.dotted = b.dotted) :
    a.map Step.text = b.map Step.text := by
  apply List.map_injective_iff.mpr (fun _ _ => String.toList_inj.mp)
  rw [← pieces_dotted ha hundotted, ← pieces_dotted hb hundotted', h]

end Location

/-- Neither the id of a descriptor nor that of a descriptor below it has a dot. -/
inductive FieldDescriptor.Undotted : FieldDescriptor → Prop
  | mk {field : FieldDescriptor} (id : '.' ∉ field.id.toList)
      (fields : ∀ field' ∈ field.fields, Undotted field') : Undotted field

/-- No key of a section map and no id of a descriptor has a dot, at any depth. -/
inductive SectionBody.Undotted : SectionBody → Prop
  | fieldList {fields : List FieldDescriptor} (each : ∀ field ∈ fields, field.Undotted) :
      Undotted (.fieldList fields)
  | oneField {field : FieldDescriptor} (undotted : field.Undotted) : Undotted (.oneField field)
  | sectionMap {sections : List (String × SectionBody)}
      (keys : ∀ key body, (key, body) ∈ sections → '.' ∉ key.toList)
      (each : ∀ key body, (key, body) ∈ sections → Undotted body) : Undotted (.sectionMap sections)

def SchemaDocument.Undotted : SchemaDocument → Prop
  | .flat fields => (SectionBody.fieldList fields).Undotted
  | .sectioned sections => (SectionBody.sectionMap sections).Undotted

namespace Rule

/-- No member that a rule names, at any depth, has a dot in its key. -/
inductive Undotted : Rule → Prop
  | mk {rule : Rule} (keys : ∀ id member, (id, member) ∈ rule.members → '.' ∉ id.toList)
      (members : ∀ id member, (id, member) ∈ rule.members → Undotted member)
      (element : ∀ label element, rule = .list label (some element) → Undotted element) :
      Undotted rule

/-- Steps that start from such a rule have no dots. -/
theorem Undotted.location {rule last : Rule} {input input' : Option Json} {location : Location}
    (h : rule.Undotted) (hreaches : rule.Reaches input location last input') :
    location.Undotted := by
  induction hreaches with
  | here => exact fun _ hmem => absurd hmem List.not_mem_nil
  | member declared _ ih =>
      cases h with
      | mk keys members _ =>
          exact List.forall_mem_cons.mpr ⟨keys _ _ declared, ih (members _ _ declared)⟩
  | item label there _ ih =>
      cases h with
      | mk _ _ element =>
          refine List.forall_mem_cons.mpr ⟨?_, ih (element _ _ rfl)⟩
          intro hmem
          have hdigit := Text.isDigit_of_mem_decimal (by simpa [Step.text] using hmem)
          revert hdigit
          decide

theorem undotted_of_leaf {rule : Rule} (hmembers : rule.members = [])
    (helement : ∀ label element, rule ≠ .list label (some element)) : rule.Undotted := by
  refine .mk ?_ ?_ fun label element heq => absurd heq (helement label element)
  · simp [hmembers]
  · simp [hmembers]

theorem undotted_record (label : String) {members : List (String × Rule)} (required : Bool)
    (h : ∀ id member, (id, member) ∈ members → '.' ∉ id.toList ∧ member.Undotted) :
    (record label members required).Undotted :=
  .mk (fun id member hmem => (h id member hmem).1) (fun id member hmem => (h id member hmem).2)
    (by simp)

theorem undotted_media (label : String) {members : List (String × Rule)} (required minimal : Bool)
    (h : ∀ id member, (id, member) ∈ members → '.' ∉ id.toList ∧ member.Undotted) :
    (media label members required minimal).Undotted :=
  .mk (fun id member hmem => (h id member hmem).1) (fun id member hmem => (h id member hmem).2)
    (by simp)

theorem undotted_list (label : String) {element : Rule} (h : element.Undotted) :
    (list label (some element)).Undotted := by
  refine .mk (by simp [Rule.members]) (by simp [Rule.members]) ?_
  rintro _ _ ⟨⟩
  exact h

theorem undotted_text (label : String) (format : TextFormat) (required : Bool) :
    (text label format required).Undotted :=
  undotted_of_leaf rfl (by simp)

theorem undotted_minimalMedia :
    ∀ id member, (id, member) ∈ minimalMedia → '.' ∉ id.toList ∧ member.Undotted := by
  intro id member hmem
  simp only [minimalMedia, List.mem_cons, Prod.mk.injEq, List.not_mem_nil, or_false] at hmem
  rcases hmem with ⟨rfl, rfl⟩ | ⟨rfl, rfl⟩
  · exact ⟨by decide, undotted_text _ _ _⟩
  · exact ⟨by decide, undotted_text _ _ _⟩

theorem undotted_ofOptions (label : String) (options : OptionSet) (nested : Bool) :
    (ofOptions label options nested).Undotted := by
  unfold ofOptions
  split
  · exact undotted_text _ _ _
  · exact undotted_of_leaf rfl (by simp)

theorem undotted_ofSiblings {fields : List FieldDescriptor} {nested : Bool}
    (h : ∀ field ∈ fields, field.Undotted)
    (hrule : ∀ field ∈ fields, (ofField field nested).Undotted) :
    ∀ id member, (id, member) ∈ ofSiblings fields nested → '.' ∉ id.toList ∧ member.Undotted := by
  intro id member hmem
  obtain ⟨field, hfind, rfl⟩ := mem_ofSiblings_iff.mp hmem
  have hfield := List.mem_of_find?_eq_some hfind
  have hid : field.id = id := by simpa using List.find?_some hfind
  refine ⟨?_, hrule field hfield⟩
  cases h field hfield with
  | mk id _ => rwa [← hid]

theorem undotted_ofField {field : FieldDescriptor} (h : field.Undotted) (nested : Bool) :
    (ofField field nested).Undotted := by
  induction h generalizing nested with
  | @mk field _ hfields ih =>
      obtain ⟨id, label, kind, fields, options, extra⟩ := field
      have hsiblings (nested : Bool) :=
        undotted_ofSiblings hfields fun field hmem => ih field hmem nested
      cases kind <;> simp only [ofField]
      case select => exact undotted_ofOptions label options nested
      case number => exact undotted_of_leaf rfl (by simp)
      case object => exact undotted_record label _ (hsiblings true)
      case list =>
        split
        · exact undotted_of_leaf rfl (by simp)
        · exact undotted_list label (undotted_record label _ (hsiblings true))
      case media =>
        split
        · exact undotted_media label _ _ undotted_minimalMedia
        · exact undotted_media label _ _ (hsiblings nested)
      all_goals exact undotted_text _ _ _

theorem undotted_ofBody {body : SectionBody} (h : body.Undotted) (key : String) :
    (ofBody body key).Undotted := by
  induction h generalizing key with
  | fieldList each =>
      simp only [ofBody]
      exact undotted_record key true
        (undotted_ofSiblings each fun field hmem => undotted_ofField (each field hmem) false)
  | oneField undotted =>
      simp only [ofBody]
      exact undotted_ofField undotted false
  | sectionMap keys _ ih =>
      simp only [ofBody]
      refine undotted_record key true ?_
      intro id member hmem
      obtain ⟨body, hbody, rfl⟩ := mem_ofBodies_iff.mp hmem
      exact ⟨keys id body hbody, ih id body hbody id⟩

end Rule

theorem SchemaDocument.undotted_root {schema : SchemaDocument} (h : schema.Undotted) :
    schema.compile.root.Undotted := by
  cases schema with
  | flat fields =>
      have hbody := Rule.undotted_ofBody h CompiledSchema.rootLabel
      rwa [Rule.ofBody] at hbody
  | sectioned sections =>
      have hbody := Rule.undotted_ofBody h CompiledSchema.rootLabel
      rwa [Rule.ofBody] at hbody

/-! ### Reports -/

namespace ErrorReport

/-- The messages of those issues that have a dotted location. -/
def messagesAt (path : String) (issues : List Issue) : List String :=
  (issues.filter fun issue => issue.location.dotted = path).map Issue.message

theorem messagesAt_append (issues others : List Issue) (path : String) :
    messagesAt path (issues ++ others) = messagesAt path issues ++ messagesAt path others := by
  simp [messagesAt]

theorem get?_add (report : ErrorReport) (issue : Issue) (path : String) :
    Assoc.get? path (report.add issue).entries =
      if issue.location.dotted = path then
        some ((Assoc.get? path report.entries).getD [] ++ [issue.message])
      else Assoc.get? path report.entries := by
  split
  · next hpath =>
      subst hpath
      exact Assoc.get?_insert_self _ _ _
  · next hpath => exact Assoc.get?_insert_of_ne (Ne.symm hpath) _ _

/-- Under each path a report has the messages of the issues there, in their order. -/
theorem messages_foldl_add (issues : List Issue) (report : ErrorReport) (path : String) :
    (issues.foldl add report).messages path = report.messages path ++ messagesAt path issues := by
  induction issues generalizing report with
  | nil => simp [messagesAt]
  | cons issue rest ih =>
      rw [List.foldl_cons, ih, messages, get?_add]
      by_cases hpath : issue.location.dotted = path
      · simp [hpath, messages, messagesAt]
      · simp [hpath, messages, messagesAt]

theorem mem_keys_foldl_add (issues : List Issue) (report : ErrorReport) (path : String) :
    path ∈ Assoc.keys (issues.foldl add report).entries ↔
      path ∈ Assoc.keys report.entries ∨ ∃ issue ∈ issues, issue.location.dotted = path := by
  induction issues generalizing report with
  | nil => simp
  | cons issue rest ih =>
      have hadd : path ∈ Assoc.keys (report.add issue).entries ↔
          path ∈ Assoc.keys report.entries ∨ issue.location.dotted = path := by
        rw [← Assoc.contains_iff, ← Assoc.contains_iff, Assoc.contains, get?_add]
        by_cases hpath : issue.location.dotted = path <;> simp [hpath, Assoc.contains]
      rw [List.foldl_cons, ih, hadd]
      simp [or_assoc]

theorem ascending_foldl_add (issues : List Issue) {report : ErrorReport}
    (h : Assoc.Ascending report.entries) : Assoc.Ascending (issues.foldl add report).entries := by
  induction issues generalizing report with
  | nil => exact h
  | cons issue rest ih => exact ih (h.insert _ _)

/-- Among issues with different dotted locations one alone is under its path. -/
theorem messagesAt_of_nodup {issues : List Issue}
    (h : (issues.map fun issue => issue.location.dotted).Nodup) {issue : Issue}
    (hmem : issue ∈ issues) : messagesAt issue.location.dotted issues = [issue.message] := by
  induction issues with
  | nil => cases hmem
  | cons first rest ih =>
      obtain ⟨hfirst, hrest⟩ := List.nodup_cons.mp h
      rcases List.mem_cons.mp hmem with rfl | hmem
      · have hnone :
            rest.filter (fun other => other.location.dotted = issue.location.dotted) = [] := by
          rw [List.filter_eq_nil_iff]
          intro other hother heq
          exact hfirst (List.mem_map.mpr ⟨other, hother, by simpa using heq⟩)
        simp [messagesAt, hnone]
      · have hne : first.location.dotted ≠ issue.location.dotted := by
          intro heq
          exact hfirst (List.mem_map.mpr ⟨issue, hmem, heq.symm⟩)
        rw [← ih hrest hmem]
        simp [messagesAt, hne]

variable {issues : List Issue} {path : String} {messages : List String}

theorem messagesAt_ne_nil_iff :
    messagesAt path issues ≠ [] ↔ ∃ issue ∈ issues, issue.location.dotted = path := by
  simp [messagesAt]

theorem messages_ofIssues (issues : List Issue) (path : String) :
    (ofIssues issues).messages path = messagesAt path issues :=
  messages_foldl_add issues empty path

theorem ascending_ofIssues (issues : List Issue) : Assoc.Ascending (ofIssues issues).entries :=
  ascending_foldl_add issues .nil

theorem mem_keys_ofIssues :
    path ∈ Assoc.keys (ofIssues issues).entries ↔
      ∃ issue ∈ issues, issue.location.dotted = path := by
  rw [ofIssues, mem_keys_foldl_add]
  simp [empty, Assoc.keys]

theorem mem_entries_ofIssues :
    (path, messages) ∈ (ofIssues issues).entries ↔
      messages ≠ [] ∧ messages = messagesAt path issues := by
  have hmessages := messages_ofIssues issues path
  rw [ErrorReport.messages] at hmessages
  rw [← Assoc.get?_eq_some_iff (ascending_ofIssues issues).nodup_keys]
  constructor
  · intro hget
    have hpath : path ∈ Assoc.keys (ofIssues issues).entries :=
      Assoc.mem_keys_of_mem (Assoc.mem_of_get? hget)
    rw [hget, Option.getD_some] at hmessages
    exact ⟨hmessages ▸ messagesAt_ne_nil_iff.mpr (mem_keys_ofIssues.mp hpath), hmessages⟩
  · rintro ⟨hsome, rfl⟩
    have hpath := mem_keys_ofIssues.mpr (messagesAt_ne_nil_iff.mp hsome)
    cases hget : Assoc.get? path (ofIssues issues).entries with
    | none => exact absurd hpath (Assoc.get?_eq_none_iff.mp hget)
    | some found =>
        rw [hget, Option.getD_some] at hmessages
        rw [hmessages]

/-- A report has, under each dotted path, the messages of all issues located there, in their order,
and first of all the first of them. Its paths are in strictly ascending order of their bytes, and
they are those that have a message. The report of two lists of issues, one after the other, has the
messages of the first one before those of the second one. -/
theorem ofIssues_loses_nothing (issues : List Issue) :
    (∀ path, (ofIssues issues).messages path = messagesAt path issues ∧
      (ofIssues issues).message? path = (messagesAt path issues).head?) ∧
    (Assoc.keys (ofIssues issues).entries).Pairwise (Text.bytes · < Text.bytes ·) ∧
    (∀ path messages, (path, messages) ∈ (ofIssues issues).entries ↔
      messages ≠ [] ∧ messages = messagesAt path issues) ∧
    ∀ others path, (ofIssues (issues ++ others)).messages path =
      (ofIssues issues).messages path ++ (ofIssues others).messages path := by
  refine ⟨fun path => ⟨messages_ofIssues issues path, ?_⟩, ?_, ?_, ?_⟩
  · rw [message?, messages_ofIssues]
  · exact (Assoc.ascending_iff_keys.mp (ascending_ofIssues issues)).imp Text.bytes_lt_iff.mpr
  · exact fun path messages => mem_entries_ofIssues
  · intro others path
    rw [messages_ofIssues, messages_ofIssues, messages_ofIssues, messagesAt_append]

/-- A key with a dot and two keys have one path, and the messages of both are there. -/
example :
    (ofIssues [⟨[.key "a.b"], "first"⟩, ⟨[.key "c"], "other"⟩,
      ⟨[.key "a", .key "b"], "second"⟩]).entries =
        [("a.b", ["first", "second"]), ("c", ["other"])] := by
  decide +kernel

/-- Issues with different dotted locations stand in a report by themselves. -/
theorem mem_entries_iff (h : (issues.map fun issue => issue.location.dotted).Nodup) :
    (path, messages) ∈ (ofIssues issues).entries ↔
      ∃ issue ∈ issues, issue.location.dotted = path ∧ messages = [issue.message] := by
  rw [mem_entries_ofIssues]
  constructor
  · rintro ⟨hsome, rfl⟩
    obtain ⟨issue, hissue, rfl⟩ := messagesAt_ne_nil_iff.mp hsome
    exact ⟨issue, hissue, rfl, messagesAt_of_nodup h hissue⟩
  · rintro ⟨issue, hissue, rfl, rfl⟩
    exact ⟨List.cons_ne_nil _ _, (messagesAt_of_nodup h hissue).symm⟩

theorem size_ofIssues (h : (issues.map fun issue => issue.location.dotted).Nodup) :
    (ofIssues issues).size = issues.length := by
  have hperm : (Assoc.keys (ofIssues issues).entries).Perm
      (issues.map fun issue => issue.location.dotted) := by
    refine (List.perm_ext_iff_of_nodup (ascending_ofIssues issues).nodup_keys h).mpr fun path => ?_
    rw [mem_keys_ofIssues, List.mem_map]
  simpa [Assoc.keys, size] using hperm.length_eq

end ErrorReport

/-! ### The issues of a document -/

namespace SchemaDocument

variable {schema : SchemaDocument}

theorem validate_issues (schema : SchemaDocument) (values : List (String × Json)) :
    (schema.compile.validate (.obj values)).issues =
      (Validation.check schema.compile.root (some (.obj values))).issues := by
  rw [CompiledSchema.validate, Json.isObject, if_pos rfl, Validation.issues_ofChecked]

theorem location_ne_root {values : List (String × Json)} {issue : Issue}
    (h : issue ∈ (schema.compile.validate (.obj values)).issues) : issue.location ≠ .root := by
  rw [validate_issues, CompiledSchema.root, Validation.check_record, Validation.checkObject_obj,
    Validation.closeRecord_issues] at h
  obtain ⟨entry, -, hmem⟩ := List.mem_flatMap.mp h
  obtain ⟨below, -, rfl⟩ := List.mem_map.mp hmem
  exact List.cons_ne_nil _ _

theorem nodup_texts (hkeyed : schema.Keyed) (values : List (String × Json)) :
    ((schema.compile.validate (.obj values)).issues.map fun issue =>
      issue.location.map Step.text).Nodup := by
  rw [validate_issues]
  exact Validation.nodup_issues (wellFormed_root hkeyed) _

theorem nodup_dotted (hkeyed : schema.Keyed) (hundotted : schema.Undotted)
    (values : List (String × Json)) :
    ((schema.compile.validate (.obj values)).issues.map fun issue =>
      issue.location.dotted).Nodup := by
  have hlocation {issue : Issue}
      (hmem : issue ∈ (schema.compile.validate (.obj values)).issues) :
      issue.location.Undotted := by
    rw [validate_issues] at hmem
    obtain ⟨_, _, hreaches, -⟩ := Validation.mem_check_issues_iff.mp hmem
    exact (undotted_root hundotted).location hreaches
  refine List.pairwise_map.mpr ((List.pairwise_map.mp (nodup_texts hkeyed values)).imp_of_mem ?_)
  intro a b ha hb htexts hdotted
  exact htexts (Location.texts_eq_of_dotted_eq (location_ne_root ha) (location_ne_root hb)
    (hlocation ha) (hlocation hb) hdotted)

/-- The issues of a document are the faulty places that the check comes to, in the order in which
it does. Each is at a declared member or an item of the document, it is what the rule there says
when it is asked alone, and no two of them are at one location. Where no key of the schema has a
dot, no two share a dotted location either, and the report has each of them under a path of its
own. -/
theorem issues_located (hkeyed : schema.Keyed) (values : List (String × Json)) :
    let root := schema.compile.root
    let issues := (schema.compile.validate (.obj values)).issues
    issues = (root.visits (some (.obj values))).filterMap Visit.issue? ∧
      (∀ issue, issue ∈ issues ↔ ∃ rule input,
        root.Reaches (some (.obj values)) issue.location rule input ∧
          (Validation.check rule input).issues = [⟨.root, issue.message⟩]) ∧
      (∀ issue ∈ issues, issue.location ≠ .root) ∧
      (issues.map Issue.location).Nodup ∧
      (schema.Undotted →
        (issues.map fun issue => issue.location.dotted).Nodup ∧
          (ErrorReport.ofIssues issues).size = issues.length ∧
          ∀ path messages, (path, messages) ∈ (ErrorReport.ofIssues issues).entries ↔
            ∃ issue ∈ issues, issue.location.dotted = path ∧ messages = [issue.message]) := by
  dsimp only
  refine ⟨?_, ?_, fun _ => location_ne_root, ?_, fun hundotted => ?_⟩
  · rw [validate_issues]
    exact Validation.check_issues_eq_visits _ _
  · intro issue
    rw [validate_issues]
    exact Validation.mem_check_issues_iff
  · have htexts := nodup_texts hkeyed values
    rw [← Function.comp_def, ← List.map_map] at htexts
    exact htexts.of_map
  · have hdotted := nodup_dotted hkeyed hundotted values
    refine ⟨hdotted, ErrorReport.size_ofIssues hdotted, ?_⟩
    exact fun path messages => ErrorReport.mem_entries_iff hdotted

/-- Prices of which the first has no number and the third is no price at all, and no title. -/
def faultyPrices : List (String × Json) :=
  [("prices", .arr [.obj [("amount", .str "doce")], .obj [("amount", .num (.int 1))], .bool true]),
    ("seo", .obj [])]

theorem undotted_priceSchema : priceSchema.Undotted := by
  refine .sectionMap ?_ ?_
  · intro key body hmem
    simp only [List.mem_cons, Prod.mk.injEq, List.not_mem_nil, or_false] at hmem
    rcases hmem with ⟨rfl, -⟩ | ⟨rfl, -⟩ <;> decide
  · intro key body hmem
    simp only [List.mem_cons, Prod.mk.injEq, List.not_mem_nil, or_false] at hmem
    rcases hmem with ⟨-, rfl⟩ | ⟨-, rfl⟩
    · refine .oneField (.mk (by decide) ?_)
      simp only [List.forall_mem_cons, List.not_mem_nil, false_implies, implies_true, and_true]
      exact ⟨.mk (by decide) (by simp), .mk (by decide) (by simp)⟩
    · refine .fieldList ?_
      simp only [List.forall_mem_cons, List.not_mem_nil, false_implies, implies_true, and_true]
      exact .mk (by decide) (by simp)

theorem issues_located_prices :
    priceSchema.Keyed ∧ priceSchema.Undotted ∧
      (priceSchema.compile.validate (.obj faultyPrices)).issues.map
        (fun issue => issue.location.dotted) = ["prices.0.amount", "prices.2", "seo.title"] ∧
      (ErrorReport.ofIssues (priceSchema.compile.validate (.obj faultyPrices)).issues).size =
        3 := by
  have hpaths : (priceSchema.compile.validate (.obj faultyPrices)).issues.map
      (fun issue => issue.location.dotted) = ["prices.0.amount", "prices.2", "seo.title"] := by
    decide +kernel
  obtain ⟨-, -, -, -, hreport⟩ := issues_located keyed_priceSchema faultyPrices
  obtain ⟨-, hsize, -⟩ := hreport undotted_priceSchema
  refine ⟨keyed_priceSchema, undotted_priceSchema, hpaths, hsize.trans ?_⟩
  simpa using congrArg List.length hpaths

end SchemaDocument

end ContentForms

import ContentForms.Proofs.RoundTrip

/-!
Which values a schema insists on. A rule says for itself whether it is required, and it says so
because of where its field stands: inside an object or a row of a list everything but a number may
be left out, inside a media value a field is as required as the media value is. The compiler knows
the position by a flag that it hands down, through objects and lists in one way and through media
values in another. Here the position is a path in the schema, and `Origin` is what the schema has at
the end of one: a field, for example, with the fields around it. `Rule.at?` follows the same path
through the compiled rules, and the two are related step by step, whence at the end of any path.
-/

namespace ContentForms

/-! ### Paths through rules -/

/-- A step from a rule to one inside: to that of a member, or to that of the items. -/
inductive RuleStep where
  | member (id : String)
  | items
  deriving DecidableEq

namespace Rule

def below? : Rule → RuleStep → Option Rule
  | rule, .member id => Assoc.get? id rule.members
  | .list _ element, .items => element
  | _, .items => none

def at? : Rule → List RuleStep → Option Rule
  | rule, [] => some rule
  | rule, step :: rest => (rule.below? step).bind fun rule => rule.at? rest

/-- A rule is inside another one, at some depth, or is that rule. -/
inductive Within (inner : Rule) : Rule → Prop
  | self : Within inner inner
  | member {outer rule : Rule} {id : String} (hmem : (id, rule) ∈ outer.members)
      (h : Within inner rule) : Within inner outer
  | item (label : String) {element : Rule} (h : Within inner element) :
      Within inner (.list label (some element))

/-- No rule inside is missed: since members are not named twice, each is at the end of a path. -/
theorem Within.exists_path {inner outer : Rule} (hin : inner.Within outer) (h : outer.WellFormed) :
    ∃ path, outer.at? path = some inner := by
  induction hin with
  | self => exact ⟨[], rfl⟩
  | @member outer rule id hmem _ ih =>
      obtain ⟨path, hpath⟩ := ih (h.member hmem)
      have hstep : outer.below? (.member id) = some rule :=
        (Assoc.get?_eq_some_iff h.nodup_members).mpr hmem
      refine ⟨.member id :: path, ?_⟩
      rw [at?, hstep]
      exact hpath
  | item label _ ih =>
      cases h with
      | items label itemLabel item =>
          obtain ⟨path, hpath⟩ := ih item
          exact ⟨.items :: path, hpath⟩

end Rule

/-! ### Where rules come from -/

/-- What a schema has at the end of a path. The fields that enclose a field are those up to its
section, innermost first. -/
inductive Origin where
  | sectionMap (sections : List (String × SectionBody))
  | fieldList (fields : List FieldDescriptor)
  /-- A field, inside those that enclose it. -/
  | inside (field : FieldDescriptor) (enclosing : List FieldDescriptor)
  /-- The rows of a list. -/
  | row (list : FieldDescriptor) (enclosing : List FieldDescriptor)
  /-- The type or the link of a media value that names no fields. -/
  | mediaPart

/-- Whether a field wants a value by itself, wherever it stands. -/
def FieldDescriptor.AsksForValue (field : FieldDescriptor) : Prop :=
  match field.kind with
  | .string | .text | .richText | .url | .image | .object | .media => True
  | .select => field.options.values ≠ []
  | .number | .list | .other _ => False

namespace Origin

def ofBody : SectionBody → Origin
  | .fieldList fields => .fieldList fields
  | .oneField field => .inside field []
  | .sectionMap sections => .sectionMap sections

def ofFirst? (id : String) (fields enclosing : List FieldDescriptor) : Option Origin :=
  (fields.find? fun field => field.id = id).map fun field => .inside field enclosing

def below? : Origin → RuleStep → Option Origin
  | .sectionMap sections, .member key => (Assoc.get? key sections).map ofBody
  | .fieldList fields, .member id => ofFirst? id fields []
  | .inside field enclosing, step =>
      match field.kind, step with
      | .object, .member id => ofFirst? id field.fields (field :: enclosing)
      | .list, .items => if field.fields = [] then none else some (.row field enclosing)
      | .media, .member id =>
          if field.fields = [] then
            if id = "type" ∨ id = "link" then some .mediaPart else none
          else ofFirst? id field.fields (field :: enclosing)
      | _, _ => none
  | .row list enclosing, .member id => ofFirst? id list.fields (list :: enclosing)
  | _, _ => none

def at? : Origin → List RuleStep → Option Origin
  | origin, [] => some origin
  | origin, step :: rest => (origin.below? step).bind fun origin => origin.at? rest

/-- Whether what stands there has to be there: sections, rows, numbers and the two parts of a media
value always, any other field if it asks for a value and nothing but media values encloses it. -/
def IsStrict : Origin → Prop
  | .sectionMap _ | .fieldList _ | .row _ _ | .mediaPart => True
  | .inside field enclosing =>
      field.kind = .number ∨ field.AsksForValue ∧ ∀ outer ∈ enclosing, outer.kind = .media

end Origin

/-- What the schema has at the end of a path from the top of the document. -/
def SchemaDocument.origin? (schema : SchemaDocument) (path : List RuleStep) : Option Origin :=
  (Origin.ofBody schema.body).at? path

/-! ### The compiled rule of an origin -/

def onlyMedia (enclosing : List FieldDescriptor) : Bool :=
  enclosing.all fun outer => outer.kind = .media

theorem onlyMedia_iff {enclosing : List FieldDescriptor} :
    onlyMedia enclosing = true ↔ ∀ outer ∈ enclosing, outer.kind = .media := by
  simp [onlyMedia]

/-- The rule that the compiler makes of what a schema that was read has at some place; the flag that
it hands down is told by the fields around. -/
inductive CompiledFrom : Origin → Rule → Prop
  | sectionMap (label : String) {sections : List (String × SectionBody)}
      (canonical : (SectionBody.sectionMap sections).Canonical) :
      CompiledFrom (.sectionMap sections) (.record label (Rule.ofBodies sections) true)
  | fieldList (label : String) {fields : List FieldDescriptor}
      (canonical : ∀ field ∈ fields, field.Canonical) :
      CompiledFrom (.fieldList fields) (.record label (Rule.ofSiblings fields false) true)
  | inside {field : FieldDescriptor} (enclosing : List FieldDescriptor)
      (canonical : field.Canonical) :
      CompiledFrom (.inside field enclosing) (Rule.ofField field (!onlyMedia enclosing))
  | row {list : FieldDescriptor} (enclosing : List FieldDescriptor) (kind : list.kind = .list)
      (canonical : list.Canonical) :
      CompiledFrom (.row list enclosing)
        (.record list.label (Rule.ofSiblings list.fields true) true)
  | mediaPart (label : String) (format : TextFormat) :
      CompiledFrom .mediaPart (.text label format true)

namespace CompiledFrom

variable {origin : Origin} {rule : Rule}

theorem ofBody {body : SectionBody} (h : body.Canonical) (key : String) :
    CompiledFrom (.ofBody body) (Rule.ofBody body key) := by
  cases h with
  | fieldList each =>
      rw [Rule.ofBody]
      exact .fieldList key each
  | oneField h =>
      rw [Rule.ofBody]
      exact .inside [] h
  | sectionMap ascending each =>
      rw [Rule.ofBody]
      exact .sectionMap key (.sectionMap ascending each)

theorem document {schema : SchemaDocument} (h : schema.body.Canonical) :
    CompiledFrom (.ofBody schema.body) schema.compile.root := by
  cases schema with
  | flat fields =>
      cases h with
      | fieldList each => exact .fieldList _ each
  | sectioned sections => exact .sectionMap _ h

/-! #### One step -/

theorem below_sections {sections : List (String × SectionBody)}
    (h : (SectionBody.sectionMap sections).Canonical) (key : String) :
    Option.Rel CompiledFrom ((Assoc.get? key sections).map Origin.ofBody)
      (Assoc.get? key (Rule.ofBodies sections)) := by
  have hget : Assoc.get? key (Rule.ofBodies sections) =
      (Assoc.get? key sections).map fun body => Rule.ofBody body key := by
    rw [Rule.ofBodies_eq_map]
    exact Assoc.get?_map key (fun key body => Rule.ofBody body key) sections
  rw [hget]
  cases hbody : Assoc.get? key sections with
  | none => exact .none
  | some body =>
      cases h with
      | sectionMap _ each => exact .some (ofBody (each key body (Assoc.mem_of_get? hbody)) key)

theorem below_siblings {fields : List FieldDescriptor} (h : ∀ field ∈ fields, field.Canonical)
    (enclosing : List FieldDescriptor) (id : String) :
    Option.Rel CompiledFrom (Origin.ofFirst? id fields enclosing)
      (Assoc.get? id (Rule.ofSiblings fields (!onlyMedia enclosing))) := by
  rw [Origin.ofFirst?, Rule.get?_ofSiblings]
  cases hfind : fields.find? fun field => field.id = id with
  | none => exact .none
  | some field => exact .some (.inside enclosing (h field (List.mem_of_find?_eq_some hfind)))

theorem below_minimalMedia (id : String) :
    Option.Rel CompiledFrom (if id = "type" ∨ id = "link" then some .mediaPart else none)
      (Assoc.get? id Rule.minimalMedia) := by
  by_cases htype : id = "type"
  · subst htype
    exact .some (.mediaPart "type" .plain)
  · by_cases hlink : id = "link"
    · subst hlink
      exact .some (.mediaPart "link" .absoluteUrl)
    · have hget : Assoc.get? id Rule.minimalMedia = none := by
        simp [Rule.minimalMedia, Assoc.get?, Ne.symm htype, Ne.symm hlink]
      rw [hget, if_neg (by simp [htype, hlink])]
      exact .none

/-- Below a field: the fields of an object or a list are told that they are nested whatever the
field itself was told, and a media value hands on what it was told. -/
theorem below_inside {field : FieldDescriptor} (enclosing : List FieldDescriptor)
    (h : field.Canonical) (step : RuleStep) :
    Option.Rel CompiledFrom ((Origin.inside field enclosing).below? step)
      ((Rule.ofField field (!onlyMedia enclosing)).below? step) := by
  have hsiblings (id : String) := below_siblings
    (fun _ hmem => h.nested hmem) (field :: enclosing) id
  have hrow (hkind : field.kind = .list) := CompiledFrom.row enclosing hkind h
  obtain ⟨id, label, kind, fields, options, extra⟩ := field
  have honly : onlyMedia (⟨id, label, kind, fields, options, extra⟩ :: enclosing) =
      (decide (kind = .media) && onlyMedia enclosing) := rfl
  rw [honly] at hsiblings
  cases step with
  | member id =>
      cases kind <;> simp only [Rule.ofField, Origin.below?]
      case object => exact hsiblings id
      case list => split <;> exact .none
      case media =>
        by_cases hnone : fields = []
        · rw [if_pos hnone, if_pos (List.isEmpty_iff.mpr hnone)]
          exact below_minimalMedia id
        · rw [if_neg hnone, if_neg (mt List.isEmpty_iff.mp hnone)]
          exact hsiblings id
      case select =>
        rw [Rule.ofOptions]
        split <;> exact .none
      all_goals exact .none
  | items =>
      cases kind <;> simp only [Rule.ofField, Origin.below?]
      case list =>
        by_cases hnone : fields = []
        · rw [if_pos hnone, if_pos (List.isEmpty_iff.mpr hnone)]
          exact .none
        · rw [if_neg hnone, if_neg (mt List.isEmpty_iff.mp hnone)]
          exact .some (hrow rfl)
      case media => split <;> exact .none
      case select =>
        rw [Rule.ofOptions]
        split <;> exact .none
      all_goals exact .none

/-- The step lemma: from an origin and its rule the same steps lead on, and to an origin and its
rule. -/
theorem below (h : CompiledFrom origin rule) (step : RuleStep) :
    Option.Rel CompiledFrom (origin.below? step) (rule.below? step) := by
  cases h with
  | sectionMap label canonical =>
      cases step with
      | member key => exact below_sections canonical key
      | items => exact .none
  | fieldList label canonical =>
      cases step with
      | member id => exact below_siblings canonical [] id
      | items => exact .none
  | inside enclosing canonical => exact below_inside enclosing canonical step
  | @row list enclosing kind canonical =>
      cases step with
      | member id =>
          have honly : onlyMedia (list :: enclosing) = false := by
            simp [onlyMedia, kind]
          have hsiblings := below_siblings
            (fun _ hmem => canonical.nested hmem) (list :: enclosing) id
          rw [honly] at hsiblings
          exact hsiblings
      | items => exact .none
  | mediaPart label format => cases step <;> exact .none

/-- The run lemma: so do the same paths. -/
theorem along (h : CompiledFrom origin rule) (path : List RuleStep) :
    Option.Rel CompiledFrom (origin.at? path) (rule.at? path) := by
  induction path generalizing origin rule with
  | nil => exact .some h
  | cons step rest ih =>
      have hstep := h.below step
      rw [Origin.at?, Rule.at?]
      generalize origin.below? step = origin? at hstep ⊢
      generalize rule.below? step = rule? at hstep ⊢
      cases hstep with
      | none => exact .none
      | some hinner => exact ih hinner

/-! #### What a rule shows of its origin -/

theorem isRequired_iff (h : CompiledFrom origin rule) :
    rule.isRequired = true ↔ origin.IsStrict := by
  cases h with
  | sectionMap | fieldList | row | mediaPart => exact iff_of_true rfl trivial
  | @inside field enclosing canonical =>
      rw [Origin.IsStrict, ← onlyMedia_iff]
      obtain ⟨id, label, kind, fields, options, extra⟩ := field
      cases kind <;> simp only [Rule.ofField, FieldDescriptor.AsksForValue]
      case select =>
        by_cases hnone : options.values = []
        · simp [Rule.ofOptions, OptionSet.isEmpty, hnone, Rule.anyText, Rule.isRequired]
        · simp [Rule.ofOptions, OptionSet.isEmpty, hnone, Rule.isRequired]
      case list => split <;> simp [Rule.isRequired]
      case media => split <;> simp [Rule.isRequired]
      all_goals simp [Rule.isRequired, Rule.anyText]

theorem nodup_members (h : CompiledFrom origin rule) : (Assoc.keys rule.members).Nodup := by
  cases h with
  | sectionMap label canonical =>
      show (Assoc.keys (Rule.ofBodies _)).Nodup
      rw [Rule.keys_ofBodies]
      cases canonical with
      | sectionMap ascending _ => exact ascending.nodup_keys
  | fieldList => exact Rule.nodup_keys_ofSiblings _ _
  | row => exact Rule.nodup_keys_ofSiblings _ _
  | inside => exact (Rule.wellFormed_ofField _ _).nodup_members
  | mediaPart => exact List.nodup_nil

theorem allowed_choice (h : CompiledFrom origin rule) {label : String} {allowed : List String}
    {multiple required : Bool} (hrule : rule = .choice label allowed multiple required) :
    allowed ≠ [] ∧ allowed.Nodup := by
  cases h with
  | sectionMap | fieldList | row | mediaPart => cases hrule
  | @inside field enclosing canonical =>
      have hdistinct : field.options.allowed.Nodup := canonical.distinct
      obtain ⟨id, label, kind, fields, options, extra⟩ := field
      cases kind <;> simp only [Rule.ofField, Rule.anyText] at hrule
      case select =>
        unfold Rule.ofOptions at hrule
        split at hrule
        · cases hrule
        · next hsome =>
            cases hrule
            refine ⟨?_, hdistinct⟩
            simpa [OptionSet.isEmpty, OptionSet.allowed] using hsome
      case list | media => split at hrule <;> cases hrule
      all_goals cases hrule

theorem minimal_media (h : CompiledFrom origin rule) {label : String}
    {members : List (String × Rule)} {required minimal : Bool}
    (hrule : rule = .media label members required minimal) :
    ∃ field enclosing, origin = .inside field enclosing ∧ field.kind = .media ∧
      (minimal = true ↔ field.fields = []) := by
  cases h with
  | sectionMap | fieldList | row | mediaPart => cases hrule
  | @inside field enclosing canonical =>
      refine ⟨field, enclosing, rfl, ?_⟩
      obtain ⟨id, label, kind, fields, options, extra⟩ := field
      cases kind <;> simp only [Rule.ofField, Rule.anyText] at hrule
      case media =>
        split at hrule
        · next hnone =>
            cases hrule
            exact ⟨rfl, iff_of_true rfl (List.isEmpty_iff.mp hnone)⟩
        · next hsome =>
            cases hrule
            exact ⟨rfl, iff_of_false (by simp) (mt List.isEmpty_iff.mpr hsome)⟩
      case select =>
        unfold Rule.ofOptions at hrule
        split at hrule <;> cases hrule
      case list => split at hrule <;> cases hrule
      all_goals cases hrule

end CompiledFrom

namespace SchemaDocument

/-- In a schema that was read, position decides. Every compiled rule is at the end of a path, the
paths are those of the schema, and at the end of each the rule is required exactly if its origin is
strict. No object has two rules for a member, the first declaration being the one that counts; a
choice leaves something to choose and offers nothing twice; and a media value is minimal exactly if
its field names no fields. -/
theorem required_by_position {value : Json} {schema : SchemaDocument}
    (h : ofJson? value = some schema) :
    (∀ rule, rule.Within schema.compile.root → ∃ path, schema.compile.root.at? path = some rule) ∧
      ∀ path, (schema.compile.root.at? path).isSome = (schema.origin? path).isSome ∧
        ∀ rule origin,
          schema.compile.root.at? path = some rule → schema.origin? path = some origin →
            (rule.isRequired = true ↔ origin.IsStrict) ∧
            (Assoc.keys rule.members).Nodup ∧
            (∀ label allowed multiple required, rule = .choice label allowed multiple required →
              allowed ≠ [] ∧ allowed.Nodup) ∧
            ∀ label members required minimal, rule = .media label members required minimal →
              ∃ field enclosing, origin = .inside field enclosing ∧ field.kind = .media ∧
                (minimal = true ↔ field.fields = []) := by
  have hcanonical : schema.body.Canonical := SectionBody.reading_canonical.of_document h
  refine ⟨fun rule hin => hin.exists_path (wellFormed_root (keyed_of_ofJson? h)), fun path => ?_⟩
  have halong := (CompiledFrom.document hcanonical).along path
  rw [origin?]
  generalize (Origin.ofBody schema.body).at? path = origin? at halong ⊢
  generalize schema.compile.root.at? path = rule? at halong ⊢
  cases halong with
  | none => exact ⟨rfl, fun rule origin hrule => by cases hrule⟩
  | some hfrom =>
      refine ⟨rfl, ?_⟩
      rintro rule origin ⟨⟩ ⟨⟩
      exact ⟨hfrom.isRequired_iff, hfrom.nodup_members, fun _ _ _ _ => hfrom.allowed_choice,
        fun _ _ _ _ => hfrom.minimal_media⟩

/-- A cover with a text of its own, declared twice, and rows of photos. -/
def gallerySource : Json :=
  .arr [
    .obj [("fields", .arr [
        .obj [("id", .str "alt"), ("type", .str "string")],
        .obj [("id", .str "alt"), ("type", .str "list")]]),
      ("id", .str "cover"), ("type", .str "media")],
    .obj [("fields", .arr [.obj [("id", .str "photo"), ("type", .str "media")]]),
      ("id", .str "gallery"), ("type", .str "list")]]

def gallerySchema : SchemaDocument :=
  .flat [
    ⟨"cover", "cover", .media, [⟨"alt", "alt", .string, [], .empty, []⟩,
      ⟨"alt", "alt", .list, [], .empty, []⟩], .empty, []⟩,
    ⟨"gallery", "gallery", .list, [⟨"photo", "photo", .media, [], .empty, []⟩], .empty, []⟩]

/-- The text of the cover is required; a photo in a row is not, but the link of one that is there.
-/
theorem required_by_position_gallery :
    ofJson? gallerySource = some gallerySchema ∧
      (∃ rule, gallerySchema.compile.root.at? [.member "cover", .member "alt"] = some rule ∧
        rule.isRequired = true) ∧
      (∃ rule, gallerySchema.compile.root.at? [.member "gallery", .items, .member "photo"] =
        some rule ∧ rule.isRequired = false) ∧
      ∃ rule, gallerySchema.compile.root.at?
          [.member "gallery", .items, .member "photo", .member "link"] = some rule ∧
        rule.isRequired = true := by
  have hread : ofJson? gallerySource = some gallerySchema := rfl
  refine ⟨hread, ?_, ?_, ?_⟩
  · obtain ⟨hsome, hfacts⟩ := (required_by_position hread).2 [.member "cover", .member "alt"]
    obtain ⟨rule, hrule⟩ := Option.isSome_iff_exists.mp hsome
    refine ⟨rule, hrule, (hfacts rule _ hrule rfl).1.mpr (.inr ⟨trivial, ?_⟩)⟩
    simp
  · obtain ⟨hsome, hfacts⟩ := (required_by_position hread).2
      [.member "gallery", .items, .member "photo"]
    obtain ⟨rule, hrule⟩ := Option.isSome_iff_exists.mp hsome
    refine ⟨rule, hrule, Bool.eq_false_iff.mpr (mt (hfacts rule _ hrule rfl).1.mp ?_)⟩
    simp [Origin.IsStrict]
  · obtain ⟨hsome, hfacts⟩ := (required_by_position hread).2
      [.member "gallery", .items, .member "photo", .member "link"]
    obtain ⟨rule, hrule⟩ := Option.isSome_iff_exists.mp hsome
    exact ⟨rule, hrule, (hfacts rule _ hrule rfl).1.mpr trivial⟩

end SchemaDocument

end ContentForms

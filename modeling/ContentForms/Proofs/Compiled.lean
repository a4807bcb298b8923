import ContentForms.Proofs.Entries
import ContentForms.Rule.Compile
import ContentForms.Schema.Loaded

/-!
What every compiled rule looks like. Compiling can be handed siblings that share an id, and keeps
the first; the statements here say so by `List.find?`, without the accumulator of the compiler.
From it follows the invariant on which all that is proved about checking rests: no object of a
compiled schema names a member twice, and the items of a list, if anything is asked of them, are
objects that have to be there. A section map brings no repeated keys of its own, because it is a
map; `Keyed` says this of the association lists that stand for such maps, and everything that is
read from a schema has it.
-/

namespace ContentForms

@[elab_as_elim]
theorem FieldDescriptor.induct {motive : FieldDescriptor → Prop}
    (step : ∀ id label kind fields options extra, (∀ field ∈ fields, motive field) →
      motive ⟨id, label, kind, fields, options, extra⟩) : ∀ field, motive field
  | ⟨id, label, kind, fields, options, extra⟩ =>
      step id label kind fields options extra fun field _ => FieldDescriptor.induct step field

namespace Rule

/-! ### Siblings -/

theorem get?_ofFields (id : String) (fields : List FieldDescriptor) (nested : Bool) :
    Assoc.get? id (ofFields fields nested) =
      (fields.find? fun field => field.id = id).map fun field => ofField field nested := by
  induction fields with
  | nil => simp [ofFields]
  | cons field rest ih => by_cases h : field.id = id <;> simp [ofFields, Assoc.get?, h, ih]

/-- The rules of siblings are those of the first field with each id. -/
theorem get?_ofSiblings (id : String) (fields : List FieldDescriptor) (nested : Bool) :
    Assoc.get? id (ofSiblings fields nested) =
      (fields.find? fun field => field.id = id).map fun field => ofField field nested := by
  rw [ofSiblings, Assoc.get?_firsts, get?_ofFields]

theorem nodup_keys_ofSiblings (fields : List FieldDescriptor) (nested : Bool) :
    (Assoc.keys (ofSiblings fields nested)).Nodup :=
  Assoc.nodup_keys_firsts _

theorem mem_ofSiblings_iff {id : String} {rule : Rule} {fields : List FieldDescriptor}
    {nested : Bool} :
    (id, rule) ∈ ofSiblings fields nested ↔
      ∃ field, fields.find? (fun field => field.id = id) = some field ∧
        ofField field nested = rule := by
  rw [← Assoc.get?_eq_some_iff (nodup_keys_ofSiblings fields nested), get?_ofSiblings,
    Option.map_eq_some_iff]

theorem ofFields_eq_map (fields : List FieldDescriptor) (nested : Bool) :
    ofFields fields nested =
      (fields.map fun field => (field.id, field)).map fun entry =>
        (entry.1, ofField entry.2 nested) := by
  induction fields with
  | nil => rw [ofFields, List.map_nil, List.map_nil]
  | cons field rest ih => rw [ofFields, ih, List.map_cons, List.map_cons]

/-- Which of the siblings count does not depend on how nested they are. -/
theorem ofSiblings_eq_map (fields : List FieldDescriptor) (nested : Bool) :
    ofSiblings fields nested =
      (Assoc.firsts (fields.map fun field => (field.id, field))).map fun entry =>
        (entry.1, ofField entry.2 nested) := by
  rw [ofSiblings, ofFields_eq_map]
  exact Assoc.firsts_map_snd (fun field => ofField field nested) _

/-! ### The invariant of compiled rules -/

/-- No object names a member twice, and a list asks nothing of its items or wants objects. -/
inductive WellFormed : Rule → Prop
  | text (label : String) (format : TextFormat) (required : Bool) :
      WellFormed (.text label format required)
  | number (label : String) : WellFormed (.number label)
  | choice (label : String) (allowed : List String) (multiple required : Bool) :
      WellFormed (.choice label allowed multiple required)
  | record (label : String) {members : List (String × Rule)} (required : Bool)
      (distinct : (Assoc.keys members).Nodup)
      (each : ∀ id rule, (id, rule) ∈ members → WellFormed rule) :
      WellFormed (.record label members required)
  | media (label : String) {members : List (String × Rule)} (required minimal : Bool)
      (distinct : (Assoc.keys members).Nodup)
      (each : ∀ id rule, (id, rule) ∈ members → WellFormed rule) :
      WellFormed (.media label members required minimal)
  | anyItems (label : String) : WellFormed (.list label none)
  | items (label itemLabel : String) {members : List (String × Rule)}
      (item : WellFormed (.record itemLabel members true)) :
      WellFormed (.list label (some (.record itemLabel members true)))

theorem WellFormed.nodup_members {rule : Rule} (h : rule.WellFormed) :
    (Assoc.keys rule.members).Nodup := by
  cases h with
  | record _ _ distinct _ => exact distinct
  | media _ _ _ distinct _ => exact distinct
  | _ => exact List.nodup_nil

theorem WellFormed.member {rule inner : Rule} (h : rule.WellFormed) {id : String}
    (hmem : (id, inner) ∈ rule.members) : inner.WellFormed := by
  cases h with
  | record _ _ _ each => exact each id inner hmem
  | media _ _ _ _ each => exact each id inner hmem
  | _ => cases hmem

theorem wellFormed_ofSiblings {fields : List FieldDescriptor} {nested : Bool}
    (h : ∀ field ∈ fields, (ofField field nested).WellFormed) :
    ∀ id rule, (id, rule) ∈ ofSiblings fields nested → rule.WellFormed := by
  intro id rule hmem
  obtain ⟨field, hfind, rfl⟩ := mem_ofSiblings_iff.mp hmem
  exact h field (List.mem_of_find?_eq_some hfind)

theorem wellFormed_minimalMedia : ∀ id rule, (id, rule) ∈ minimalMedia → rule.WellFormed := by
  intro id rule hmem
  simp only [minimalMedia, List.mem_cons, Prod.mk.injEq, List.not_mem_nil, or_false] at hmem
  rcases hmem with ⟨-, rfl⟩ | ⟨-, rfl⟩ <;> exact .text _ _ _

theorem wellFormed_ofOptions (label : String) (options : OptionSet) (nested : Bool) :
    (ofOptions label options nested).WellFormed := by
  unfold ofOptions
  split
  · exact .text _ _ _
  · exact .choice _ _ _ _

theorem wellFormed_ofField (field : FieldDescriptor) (nested : Bool) :
    (ofField field nested).WellFormed := by
  induction field using FieldDescriptor.induct generalizing nested with
  | step id label kind fields options extra ih =>
      -- For either nesting, since the fields of a media value are as nested as the value itself.
      have hsiblings (nested : Bool) := wellFormed_ofSiblings fun field hmem => ih field hmem nested
      have hdistinct (nested : Bool) := nodup_keys_ofSiblings fields nested
      cases kind <;> simp only [ofField]
      case select => exact wellFormed_ofOptions label options nested
      case number => exact .number label
      case object => exact .record label _ (hdistinct true) (hsiblings true)
      case list =>
        split
        · exact .anyItems label
        · exact .items label label (.record label _ (hdistinct true) (hsiblings true))
      case media =>
        split
        · exact .media label _ _ (by decide) wellFormed_minimalMedia
        · exact .media label _ _ (hdistinct nested) (hsiblings nested)
      all_goals exact .text _ _ _

end Rule

/-! ### Section maps -/

/-- No map of sections, at any depth, has a key twice. -/
inductive SectionBody.Keyed : SectionBody → Prop
  | fieldList (fields : List FieldDescriptor) : Keyed (.fieldList fields)
  | oneField (field : FieldDescriptor) : Keyed (.oneField field)
  | sectionMap {sections : List (String × SectionBody)} (distinct : (Assoc.keys sections).Nodup)
      (each : ∀ key body, (key, body) ∈ sections → Keyed body) : Keyed (.sectionMap sections)

/-- The sections of the document, if it has any, are a map at every depth. -/
def SchemaDocument.Keyed : SchemaDocument → Prop
  | .flat _ => True
  | .sectioned sections => (SectionBody.sectionMap sections).Keyed

/-- A property that reading brings about: of lists of fields and of single fields that are read, and
of sections in key order that have it. -/
structure SectionBody.Reading (P : SectionBody → Prop) : Prop where
  fieldList : ∀ {items fields}, readFields? items = some fields → P (.fieldList fields)
  oneField : ∀ {value field}, FieldDescriptor.ofJson value = .ok field → P (.oneField field)
  sectionMap : ∀ {bodies}, (∀ key body, (key, body) ∈ bodies → P body) →
    P (.sectionMap (Assoc.ofList bodies))

mutual
theorem SectionBody.Reading.of_ofJson? {P : SectionBody → Prop} (hP : SectionBody.Reading P)
    (value : Json) {body : SectionBody} (h : SectionBody.ofJson? value = some body) : P body := by
  match value with
  | .null | .bool _ | .num _ | .str _ => simp [SectionBody.ofJson?] at h
  | .arr items =>
      simp only [SectionBody.ofJson?, Option.map_eq_some_iff] at h
      obtain ⟨fields, hfields, rfl⟩ := h
      exact hP.fieldList hfields
  | .obj members =>
      rw [SectionBody.ofJson?] at h
      split at h
      · next field hfield =>
          cases h
          exact hP.oneField hfield
      · rw [Option.map_eq_some_iff] at h
        obtain ⟨bodies, hbodies, rfl⟩ := h
        exact hP.sectionMap (hP.of_bodiesOf? members hbodies)

theorem SectionBody.Reading.of_bodiesOf? {P : SectionBody → Prop} (hP : SectionBody.Reading P)
    (members : List (String × Json)) {bodies : List (String × SectionBody)}
    (h : SectionBody.bodiesOf? members = some bodies) :
    ∀ key body, (key, body) ∈ bodies → P body := by
  match members with
  | [] =>
      cases h
      simp
  | (key, value) :: rest =>
      rw [SectionBody.bodiesOf?] at h
      split at h
      · next body bodies hbody hbodies =>
          cases h
          intro k b hmem
          rcases List.mem_cons.mp hmem with heq | hmem
          · cases heq
            exact hP.of_ofJson? value hbody
          · exact hP.of_bodiesOf? rest hbodies k b hmem
      · cases h
end

def SchemaDocument.body : SchemaDocument → SectionBody
  | .flat fields => .fieldList fields
  | .sectioned sections => .sectionMap sections

theorem SectionBody.Reading.of_document {P : SectionBody → Prop} (hP : SectionBody.Reading P)
    {value : Json} {schema : SchemaDocument} (h : SchemaDocument.ofJson? value = some schema) :
    P schema.body := by
  cases value with
  | arr items =>
      simp only [SchemaDocument.ofJson?, Option.map_eq_some_iff] at h
      obtain ⟨fields, hfields, rfl⟩ := h
      exact hP.fieldList hfields
  | obj members =>
      simp only [SchemaDocument.ofJson?, Option.map_eq_some_iff] at h
      obtain ⟨bodies, hbodies, rfl⟩ := h
      exact hP.sectionMap (hP.of_bodiesOf? members hbodies)
  | _ => simp [SchemaDocument.ofJson?] at h

theorem SectionBody.reading_keyed : SectionBody.Reading SectionBody.Keyed where
  fieldList := fun _ => .fieldList _
  oneField := fun _ => .oneField _
  sectionMap := fun h => .sectionMap (Assoc.ascending_ofList _).nodup_keys fun key body hmem =>
    h key body (Assoc.mem_of_mem_ofList hmem)

theorem SchemaDocument.keyed_of_ofJson? {value : Json} {schema : SchemaDocument}
    (h : SchemaDocument.ofJson? value = some schema) : schema.Keyed := by
  have hbody : schema.body.Keyed := SectionBody.reading_keyed.of_document h
  cases schema with
  | flat fields => trivial
  | sectioned sections => exact hbody

theorem LoadedSchema.keyed_of_ofSource {source : Json} {schema : LoadedSchema}
    (h : LoadedSchema.ofSource source = .ok schema) : schema.document.Keyed := by
  unfold LoadedSchema.ofSource at h
  split at h
  · cases h
  · next document hread =>
      cases h
      exact SchemaDocument.keyed_of_ofJson? hread

theorem LoadedSchema.keyed_of_read {text sourceName : String} {schema : LoadedSchema}
    (h : LoadedSchema.read text sourceName = .ok schema) : schema.document.Keyed := by
  unfold LoadedSchema.read at h
  cases hsource : LoadedSchema.readSource text with
  | error e =>
      rw [hsource] at h
      cases h
  | ok source =>
      rw [hsource] at h
      have hmap :
          (LoadedSchema.ofSource source).mapError (SchemaError.mk sourceName) = .ok schema := h
      cases hload : LoadedSchema.ofSource source with
      | error e =>
          rw [hload] at hmap
          cases hmap
      | ok loaded =>
          rw [hload] at hmap
          cases hmap
          exact LoadedSchema.keyed_of_ofSource hload

namespace Rule

theorem ofBodies_eq_map (sections : List (String × SectionBody)) :
    ofBodies sections = sections.map fun entry => (entry.1, ofBody entry.2 entry.1) := by
  induction sections with
  | nil => simp [ofBodies]
  | cons entry rest ih =>
      obtain ⟨key, body⟩ := entry
      simp [ofBodies, ih]

theorem keys_ofBodies (sections : List (String × SectionBody)) :
    Assoc.keys (ofBodies sections) = Assoc.keys sections := by
  rw [ofBodies_eq_map, Assoc.keys, Assoc.keys, List.map_map]
  rfl

theorem mem_ofBodies_iff {key : String} {rule : Rule} {sections : List (String × SectionBody)} :
    (key, rule) ∈ ofBodies sections ↔ ∃ body, (key, body) ∈ sections ∧ ofBody body key = rule := by
  rw [ofBodies_eq_map, List.mem_map]
  constructor
  · rintro ⟨⟨k, body⟩, hmem, heq⟩
    obtain ⟨rfl, rfl⟩ := Prod.mk.inj heq
    exact ⟨body, hmem, rfl⟩
  · rintro ⟨body, hmem, rfl⟩
    exact ⟨(key, body), hmem, rfl⟩

theorem wellFormed_ofBody {body : SectionBody} (h : body.Keyed) (key : String) :
    (ofBody body key).WellFormed := by
  induction h generalizing key with
  | fieldList fields =>
      simp only [ofBody]
      exact .record key true (nodup_keys_ofSiblings fields false)
        (wellFormed_ofSiblings fun field _ => wellFormed_ofField field false)
  | oneField field =>
      simp only [ofBody]
      exact wellFormed_ofField field false
  | sectionMap distinct _ ih =>
      simp only [ofBody]
      refine .record key true (by rwa [keys_ofBodies]) ?_
      intro id rule hmem
      obtain ⟨body, hbody, rfl⟩ := mem_ofBodies_iff.mp hmem
      exact ih id body hbody id

end Rule

theorem SchemaDocument.wellFormed_root {schema : SchemaDocument} (h : schema.Keyed) :
    schema.compile.root.WellFormed := by
  cases schema with
  | flat fields =>
      exact .record _ true (Rule.nodup_keys_ofSiblings fields false)
        (Rule.wellFormed_ofSiblings fun field _ => Rule.wellFormed_ofField field false)
  | sectioned sections =>
      have hbody := Rule.wellFormed_ofBody h CompiledSchema.rootLabel
      rwa [Rule.ofBody] at hbody

end ContentForms

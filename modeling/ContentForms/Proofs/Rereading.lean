import ContentForms.Proofs.Locations
import ContentForms.Proofs.Nesting
import ContentForms.Proofs.ReadBack
import ContentForms.Schema.Loaded

/-!
Whether what is stored can be read again. A document that is read from a text is within the limit of
the reader, and all that its check can add to the depth is the empty list for one that is missing,
one level below the object that lacks it. So what is stored is at most one level deeper than the
document, and too deep just if a list is missing from an object at the limit. It is written all the
same, since the printer has no limit.
-/

namespace ContentForms

open Validation

def depthOf (input : Option Json) : Nat :=
  (input.map Json.depth).getD 0

@[simp] theorem depthOf_some (value : Json) : depthOf (some value) = value.depth := rfl

theorem depthOf_of_isMissing {input : Option Json} (h : isMissing input) : depthOf input = 0 := by
  rcases isMissing_iff.mp h with rfl | rfl
  · rfl
  · rw [depthOf_some, Json.depth] <;> simp

theorem depthOf_le_iff {input : Option Json} {n : Nat} :
    depthOf input ≤ n ↔ ∀ value, input = some value → value.depth ≤ n := by
  cases input with
  | none => simp [depthOf]
  | some value => simp

theorem depthOf_obj_le_succ_iff {members : List (String × Json)} (h : (Json.obj members).Ordered)
    {n : Nat} :
    depthOf (some (.obj members)) ≤ n + 1 ↔ ∀ key, depthOf (Assoc.get? key members) ≤ n := by
  rw [depthOf_some, Json.depth_obj, Nat.add_le_add_iff_right, Json.depthMembers_le_iff_get? h]
  simp only [depthOf_le_iff]

theorem depthOf_arr_le_succ_iff {items : List Json} {n : Nat} :
    depthOf (some (.arr items)) ≤ n + 1 ↔
      ∀ (i : Nat) item, items[i]? = some item → depthOf (some item) ≤ n := by
  rw [depthOf_some, Json.depth_arr, Nat.add_le_add_iff_right, Json.depthItems_le_iff]
  exact ⟨fun h i item hi => h item (List.mem_of_getElem? hi),
    fun h item hmem => (List.mem_iff_getElem?.mp hmem).elim fun i hi => h i item hi⟩

namespace Rule

/-- All lists that are missing are less than so many steps away. -/
def ListsWithin (rule : Rule) (input : Option Json) (limit : Nat) : Prop :=
  ∀ location label element missing, rule.Reaches input location (.list label element) missing →
    isMissing missing → location.length < limit

variable {rule : Rule} {limit : Nat}

theorem listsWithin_leaf (hmembers : rule.members = [])
    (hlist : ∀ label element, rule ≠ .list label element) (input : Option Json) :
    rule.ListsWithin input limit := by
  intro location label element missing hreaches
  cases hreaches with
  | here => exact absurd rfl (hlist label element)
  | member declared =>
      rw [hmembers] at declared
      cases declared
  | item itemLabel => exact absurd rfl (hlist itemLabel _)

theorem listsWithin_missingObject (hobject : rule.IsObject) {input : Option Json}
    (hmissing : isMissing input) : rule.ListsWithin input limit := by
  intro location label element missing hreaches
  cases hreaches with
  | here => cases hobject
  | member => cases hmissing
  | item => cases hobject

theorem listsWithin_object (hobject : rule.IsObject) {values : List (String × Json)} :
    rule.ListsWithin (some (.obj values)) (limit + 1) ↔
      ∀ id member, (id, member) ∈ rule.members →
        member.ListsWithin (Assoc.get? id values) limit := by
  constructor
  · intro h id member declared location label element missing hreaches hmissing
    exact Nat.lt_of_succ_lt_succ (h _ label element missing (.member declared hreaches) hmissing)
  · intro h location label element missing hreaches hmissing
    cases hreaches with
    | here => cases hobject
    | member declared rest =>
        exact Nat.succ_lt_succ (h _ _ declared _ label element missing rest hmissing)

theorem listsWithin_items {label : String} {element : Rule} {items : List Json} :
    (Rule.list label (some element)).ListsWithin (some (.arr items)) (limit + 1) ↔
      ∀ (i : Nat) item, items[i]? = some item → element.ListsWithin (some item) limit := by
  constructor
  · intro h i item there location inner below missing hreaches hmissing
    exact Nat.lt_of_succ_lt_succ (h _ inner below missing (.item label there hreaches) hmissing)
  · intro h location inner below missing hreaches hmissing
    cases hreaches with
    | here => cases hmissing
    | item _ there rest =>
        exact Nat.succ_lt_succ (h _ _ there _ inner below missing rest hmissing)

end Rule

/-! ### What a check adds -/

section Added

variable {rule element : Rule} {limit : Nat}

theorem depthOf_object_le_iff (hobject : rule.IsObject)
    (hnodup : (Assoc.keys rule.members).Nodup) {values stored : List (String × Json)}
    (hvalues : (Json.obj values).Ordered) (hstored : (Json.obj stored).Ordered)
    (others : ∀ key, Assoc.get? key rule.members = none →
      Assoc.get? key stored = Assoc.get? key values)
    (hmember : ∀ {id : String} {member : Rule}, Assoc.get? id rule.members = some member →
      (depthOf (Assoc.get? id stored) ≤ limit ↔
        depthOf (Assoc.get? id values) ≤ limit ∧
          member.ListsWithin (Assoc.get? id values) limit)) :
    depthOf (some (.obj stored)) ≤ limit + 1 ↔
      depthOf (some (.obj values)) ≤ limit + 1 ∧
        rule.ListsWithin (some (.obj values)) (limit + 1) := by
  rw [depthOf_obj_le_succ_iff hstored, depthOf_obj_le_succ_iff hvalues,
    Rule.listsWithin_object hobject]
  constructor
  · intro h
    refine ⟨fun key => ?_, fun id member hmem => ?_⟩
    · cases hget : Assoc.get? key rule.members with
      | none => exact others key hget ▸ h key
      | some member => exact ((hmember hget).mp (h key)).1
    · have hget := (Assoc.get?_eq_some_iff hnodup).mpr hmem
      exact ((hmember hget).mp (h id)).2
  · rintro ⟨hdepths, hlists⟩ key
    cases hget : Assoc.get? key rule.members with
    | none => exact others key hget ▸ hdepths key
    | some member =>
        exact (hmember hget).mpr ⟨hdepths key, hlists key member (Assoc.mem_of_get? hget)⟩

theorem depthOf_items_le_iff {label : String} {items stored : List Json}
    (length : stored.length = items.length)
    (hitem : ∀ {i : Nat} {item item' : Json}, items[i]? = some item → stored[i]? = some item' →
      (depthOf (some item') ≤ limit ↔
        depthOf (some item) ≤ limit ∧ element.ListsWithin (some item) limit)) :
    depthOf (some (.arr stored)) ≤ limit + 1 ↔
      depthOf (some (.arr items)) ≤ limit + 1 ∧
        (Rule.list label (some element)).ListsWithin (some (.arr items)) (limit + 1) := by
  rw [depthOf_arr_le_succ_iff, depthOf_arr_le_succ_iff, Rule.listsWithin_items]
  constructor
  · intro h
    have hboth (i : Nat) (item : Json) (hi : items[i]? = some item) :
        depthOf (some item) ≤ limit ∧ element.ListsWithin (some item) limit := by
      have hlt : i < stored.length := length ▸ (List.getElem?_eq_some_iff.mp hi).1
      have hi' : stored[i]? = some stored[i] := List.getElem?_eq_getElem hlt
      exact (hitem hi hi').mp (h i _ hi')
    exact ⟨fun i item hi => (hboth i item hi).1, fun i item hi => (hboth i item hi).2⟩
  · rintro ⟨hitems, hlists⟩ i item' hi'
    have hlt : i < items.length := length ▸ (List.getElem?_eq_some_iff.mp hi').1
    have hi : items[i]? = some items[i] := List.getElem?_eq_getElem hlt
    exact (hitem hi hi').mpr ⟨hitems i _ hi, hlists i _ hi⟩

end Added

/-- What is stored is as deep as what was submitted, but for the lists that were missing. -/
theorem Normalized.depth_le_iff {rule : Rule} (hrule : rule.WellFormed)
    {input output : Option Json} (h : Normalized rule input output) (hinput : OrderedInput input)
    (houtput : OrderedInput output) {limit : Nat} :
    depthOf output ≤ limit ↔ depthOf input ≤ limit ∧ rule.ListsWithin input limit := by
  induction h generalizing limit with
  | text =>
      exact (and_iff_left (Rule.listsWithin_leaf rfl (by simp) _)).symm
  | choice =>
      exact (and_iff_left (Rule.listsWithin_leaf rfl (by simp) _)).symm
  | number =>
      exact (and_iff_left (Rule.listsWithin_leaf rfl (by simp) _)).symm
  | numeral =>
      rw [and_iff_left (Rule.listsWithin_leaf rfl (by simp) _)]
      simp [Json.depth]
  | missingObject isObject missing =>
      exact (and_iff_left (Rule.listsWithin_missingObject isObject missing)).symm
  | @object rule isObject values stored declared others ih =>
      cases limit with
      | zero => simp
      | succ limit =>
          refine depthOf_object_le_iff isObject hrule.nodup_members (hinput _ rfl)
            (houtput _ rfl) others fun {id member} hget => ?_
          exact ih id member hget (hrule.member (Assoc.mem_of_get? hget))
            ((hinput _ rfl).get? id) ((houtput _ rfl).get? id)
  | missingList label element missing =>
      rw [depthOf_of_isMissing missing, depthOf_some, Json.depth_arr, Json.depthItems]
      constructor
      · intro hlimit
        refine ⟨Nat.zero_le _, ?_⟩
        intro location inner below missing' hreaches _
        cases hreaches with
        | here => exact hlimit
        | member => cases missing
        | item => cases missing
      · intro h
        exact h.2 .root label element _ (.here _ _) missing
  | anyItems label items =>
      refine (and_iff_left ?_).symm
      intro location inner below missing hreaches hmissing
      cases hreaches with
      | here => cases hmissing
  | @items label element items stored present length each ih =>
      cases limit with
      | zero => simp
      | succ limit =>
          have helement : element.WellFormed := by
            cases hrule with
            | items _ _ item => exact item
          refine depthOf_items_le_iff length fun {i item item'} hi hi' => ?_
          refine ih i item item' hi hi' helement ?_ ?_
          · rintro _ ⟨⟩
            exact (hinput _ rfl).of_mem (List.mem_of_getElem? hi)
          · rintro _ ⟨⟩
            exact (houtput _ rfl).of_mem (List.mem_of_getElem? hi')

/-- As many steps as lead to a place, so deep is the value at least. -/
theorem Rule.Reaches.length_le_depthOf {rule last : Rule} {input input' : Option Json}
    {location : Location} (h : rule.Reaches input location last input') :
    location.length ≤ depthOf input := by
  induction h with
  | here => exact Nat.zero_le _
  | @member rule id member declared values location last input' rest ih =>
      rw [List.length_cons, depthOf_some, Json.depth_obj, Nat.add_le_add_iff_right]
      refine ih.trans (depthOf_le_iff.mpr fun value hget => ?_)
      exact Json.depthMembers_le_iff.mp (le_refl _) id value (Assoc.mem_of_get? hget)
  | item label there rest ih =>
      rw [List.length_cons, depthOf_some, Json.depth_arr, Nat.add_le_add_iff_right]
      exact ih.trans (Json.depthItems_le_iff.mp (le_refl _) _ (List.mem_of_getElem? there))

namespace CompiledSchema

variable {schema : CompiledSchema} {document data : Json}

/-- What is stored is within a limit just if the document is and no list is missing too far down. -/
theorem depth_le_iff_of_accepted {text : String} (hrule : schema.root.WellFormed)
    (hread : Json.read? text = some document)
    (haccepted : schema.validate document = .accepted data) {limit : Nat} :
    data.depth ≤ limit ↔
      document.depth ≤ limit ∧ schema.root.ListsWithin (some document) limit := by
  refine (normalized_of_accepted hrule haccepted).depth_le_iff hrule ?_ ?_
  · rintro _ ⟨⟩
    exact Json.ordered_of_read? hread
  · rintro _ ⟨⟩
    exact ordered_of_accepted hread haccepted

/-- A check adds one level at most. -/
theorem depth_le_succ_of_accepted {text : String} (hrule : schema.root.WellFormed)
    (hread : Json.read? text = some document)
    (haccepted : schema.validate document = .accepted data) : data.depth ≤ document.depth + 1 :=
  (depth_le_iff_of_accepted hrule hread haccepted).mpr ⟨Nat.le_succ _,
    fun _ _ _ _ hreaches _ => Nat.lt_succ_of_le hreaches.length_le_depthOf⟩

end CompiledSchema

namespace LoadedSchema

/-- What is written for an accepted document can be read again just if no list was missing from an
object at the limit of the reader, so always if the document stays one level below it. -/
theorem stored_document_read_back {schemaText name documentText : String}
    {schema : LoadedSchema} {document data : Json}
    (hloaded : LoadedSchema.read schemaText name = .ok schema)
    (hread : Json.read? documentText = some document)
    (haccepted : schema.compiled.validate document = .accepted data) :
    ((Json.read? data.pretty).isSome ↔
      schema.compiled.root.ListsWithin (some document) Json.Reader.maxDepth) ∧
      (document.depth < Json.Reader.maxDepth → (Json.read? data.pretty).isSome) := by
  have hrule : schema.compiled.root.WellFormed := by
    rw [schema.compiled_eq]
    exact SchemaDocument.wellFormed_root (keyed_of_read hloaded)
  have hreadable : (Json.read? data.pretty).isSome ↔ data.depth ≤ Json.Reader.maxDepth := by
    rw [Json.read?_pretty (CompiledSchema.ordered_of_accepted hread haccepted)
      (CompiledSchema.numbersFit_of_accepted hread haccepted)]
    exact Option.isSome_ite
  constructor
  · rw [hreadable, CompiledSchema.depth_le_iff_of_accepted hrule hread haccepted,
      and_iff_right (Json.depth_of_read? hread)]
  · intro hshallow
    exact hreadable.mpr
      ((CompiledSchema.depth_le_succ_of_accepted hrule hread haccepted).trans hshallow)

/-- A source that is a schema document is loaded, and what is checked against the schema is checked
against the rules of that document. -/
theorem ofSource_of_verdict {source document : Json} {verdict : Validation}
    (h : (SchemaDocument.ofJson? source).map (fun read => read.compile.validate document) =
      some verdict) :
    ∃ schema, ofSource source = .ok schema ∧ schema.compiled.validate document = verdict := by
  obtain ⟨read, hread, hverdict⟩ := Option.map_eq_some_iff.mp h
  refine ⟨{ source, document := read, compiled := read.compile }, ?_, hverdict⟩
  rw [ofSource, hread]

theorem read_of_ofSource {text name : String} {source : Json} {schema : LoadedSchema}
    (hsource : (readSource text).toOption = some source) (h : ofSource source = .ok schema) :
    LoadedSchema.read text name = .ok schema := by
  cases hread : readSource text with
  | error fault =>
      rw [hread] at hsource
      cases hsource
  | ok read =>
      rw [hread] at hsource
      cases hsource
      rw [LoadedSchema.read, hread]
      show (ofSource source).mapError _ = _
      rw [h]
      rfl

def tagsSource : Json :=
  .arr [.obj [("id", .str "tags"), ("type", .str "list")]]

/-- An empty document lacks the list of its schema. What is stored for it can be read again. -/
theorem stored_document_read_back_tags :
    ∃ schema, LoadedSchema.read "- id: tags\n  type: list\n" "page" = .ok schema ∧
      Json.read? "\x7b\x7d" = some (.obj []) ∧
      schema.compiled.validate (.obj []) = .accepted (.obj [("tags", .arr [])]) ∧
      (Json.read? (Json.obj [("tags", .arr [])]).pretty).isSome := by
  obtain ⟨schema, hschema, hverdict⟩ : ∃ schema, ofSource tagsSource = .ok schema ∧
      schema.compiled.validate (.obj []) = .accepted (.obj [("tags", .arr [])]) :=
    ofSource_of_verdict (by decide +kernel)
  have hloaded : LoadedSchema.read "- id: tags\n  type: list\n" "page" = .ok schema :=
    read_of_ofSource (by decide +kernel) hschema
  have hread : Json.read? "\x7b\x7d" = some (.obj []) := by decide +kernel
  refine ⟨schema, hloaded, hread, hverdict, ?_⟩
  exact (stored_document_read_back hloaded hread hverdict).2 (by decide)

/-! ### Documents at the limit -/

/-- A value inside objects that have it, one inside another, under the one key `a`. -/
def nested (innermost : Json) : Nat → Json
  | 0 => innermost
  | levels + 1 => .obj [("a", nested innermost levels)]

section Nested

variable {innermost : Json}

theorem depth_nested (levels : Nat) :
    (nested innermost levels).depth = levels + innermost.depth := by
  induction levels with
  | zero => rw [nested, Nat.zero_add]
  | succ levels ih =>
      rw [nested, Json.depth_obj, Json.depthMembers, Json.depthMembers, ih]
      omega

theorem reread_nested (levels : Nat) :
    (nested innermost levels).reread = nested innermost.reread levels := by
  induction levels with
  | zero => rfl
  | succ levels ih => rw [nested, nested, Json.reread, Json.rereadMembers, Json.rereadMembers, ih]

theorem ordered_nested (h : innermost.Ordered) (levels : Nat) :
    (nested innermost levels).Ordered := by
  induction levels with
  | zero => exact h
  | succ levels ih =>
      refine .obj (List.pairwise_singleton _ _) fun key value hmem => ?_
      cases List.mem_singleton.mp hmem
      exact ih

theorem numbersFit_nested (h : innermost.NumbersFit) (levels : Nat) :
    (nested innermost levels).NumbersFit := by
  induction levels with
  | zero => exact h
  | succ levels ih =>
      refine .obj fun key value hmem => ?_
      cases List.mem_singleton.mp hmem
      exact ih

end Nested

/-- The source of a schema whose sections are as deep as sections can be, with a list in the
innermost one. -/
def deepSource : Json :=
  nested (.obj [("l", .obj [("id", .str "l"), ("type", .str "list")])]) 126

/-- The lines of sections that have what is inside them, one inside another, each one column further
in. -/
def nestedLines (inside : List Char) : (levels : Nat) → (indent : List Char) → List Char
  | 0, indent => indent ++ inside
  | levels + 1, indent => indent ++ ['a', ':', '\n'] ++ nestedLines inside levels (' ' :: indent)

def deepText : String :=
  String.ofList (nestedLines "l: \x7bid: l, type: list\x7d".toList 126 [])

theorem readSource_deepText : (readSource deepText).toOption = some deepSource := by
  rw [readSource, Yaml.readJson, Yaml.read?, deepText, String.toList_ofList]
  decide +kernel

/-- A document of 127 objects is read, and accepted by a schema whose text is loaded. What is stored
for it has an empty list in the last object, and cannot be read. -/
theorem list_at_the_limit_is_not_read_back :
    ∃ schema, LoadedSchema.read deepText "page" = .ok schema ∧
      Json.read? (nested (.obj []) 126).pretty = some (nested (.obj []) 126) ∧
      schema.compiled.validate (nested (.obj []) 126) =
        .accepted (nested (.obj [("l", .arr [])]) 126) ∧
      Json.read? (nested (.obj [("l", .arr [])]) 126).pretty = none := by
  obtain ⟨schema, hschema, hverdict⟩ : ∃ schema, ofSource deepSource = .ok schema ∧
      schema.compiled.validate (nested (.obj []) 126) =
        .accepted (nested (.obj [("l", .arr [])]) 126) :=
    ofSource_of_verdict (by decide +kernel)
  have hempty : (Json.obj []).Ordered := .obj .nil (by simp)
  have hlist : (Json.obj [("l", .arr [])]).Ordered :=
    .obj (List.pairwise_singleton _ _) fun key value hmem => by
      cases List.mem_singleton.mp hmem
      exact .arr (by simp)
  have hempty' : (Json.obj []).NumbersFit := .obj (by simp)
  have hlist' : (Json.obj [("l", .arr [])]).NumbersFit :=
    .obj fun key value hmem => by
      cases List.mem_singleton.mp hmem
      exact .arr (by simp)
  refine ⟨schema, read_of_ofSource readSource_deepText hschema, ?_, hverdict, ?_⟩
  · rw [Json.read?_pretty (ordered_nested hempty 126) (numbersFit_nested hempty' 126),
      depth_nested, reread_nested]
    rfl
  · rw [Json.read?_pretty (ordered_nested hlist 126) (numbersFit_nested hlist' 126),
      depth_nested]
    rfl

end LoadedSchema

end ContentForms

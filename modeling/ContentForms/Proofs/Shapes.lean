import ContentForms.Proofs.Respelling

/-!
The shapes of a schema. A document is a list of fields or a map of sections, and the body of a
section is a list of fields, one field or a map of sections; nothing in a schema names the shape
that was meant, so it is found by trying. Here the shapes are a relation that tries nothing: a value
matches a shape if it can be understood so, whatever else it may match and whatever is chosen for
the sections inside it.

Still no value matches two shapes. Lists and objects are told apart by themselves. One field is an
object like a map of sections is, but its id is a text, and a section named `id` would need a body,
which no text is. Hence the shapes may be tried in any order, and in another one for every value.
-/

namespace ContentForms

/-- An order in which shapes are tried, none of which is left out. -/
structure TrialOrder (Shape : Type) where
  shapes : List Shape
  complete : ∀ shape, shape ∈ shapes

namespace TrialOrder

variable {Shape α : Type} {attempt : Shape → Option α}

def firstResult (order : TrialOrder Shape) (attempt : Shape → Option α) : Option α :=
  order.shapes.findSome? attempt

/-- The order does not matter where all attempts that succeed give the same. -/
theorem firstResult_eq (order : TrialOrder Shape) {result : Option α}
    (h : ∀ a, result = some a ↔ ∃ shape, attempt shape = some a) :
    order.firstResult attempt = result := by
  apply Option.ext
  intro a
  constructor
  · intro hfirst
    obtain ⟨shape, -, hshape⟩ := List.exists_of_findSome?_eq_some hfirst
    exact (h a).mpr ⟨shape, hshape⟩
  · intro hresult
    obtain ⟨shape, hshape⟩ := (h a).mp hresult
    have hsome : (order.firstResult attempt).isSome := by
      refine List.findSome?_isSome_iff.mpr ⟨shape, order.complete shape, ?_⟩
      rw [hshape, Option.isSome_some]
    obtain ⟨a', hfirst⟩ := Option.isSome_iff_exists.mp hsome
    obtain ⟨shape', -, hshape'⟩ := List.exists_of_findSome?_eq_some hfirst
    have hresult' := (h a').mpr ⟨shape', hshape'⟩
    rw [hfirst, ← hresult', hresult]

end TrialOrder

def fieldsIn? : Json → Option (List FieldDescriptor)
  | .arr items => readFields? items
  | _ => none

theorem fieldsIn?_eq_some_iff {value : Json} {fields : List FieldDescriptor} :
    fieldsIn? value = some fields ↔
      ∃ items, value = .arr items ∧ readFields? items = some fields := by
  cases value <;> simp [fieldsIn?]

/-! ### The bodies of sections -/

namespace SectionBody

inductive Shape
  | fieldList
  | oneField
  | sectionMap
  deriving DecidableEq

def shape : SectionBody → Shape
  | .fieldList _ => .fieldList
  | .oneField _ => .oneField
  | .sectionMap _ => .sectionMap

mutual
/-- The value can be understood as a body of this shape, and the sections in it as any bodies that
they can be understood as. -/
inductive Matches : Json → Shape → SectionBody → Prop
  | fieldList {items : List Json} {fields : List FieldDescriptor}
      (h : readFields? items = some fields) : Matches (.arr items) .fieldList (.fieldList fields)
  | oneField {value : Json} {field : FieldDescriptor}
      (h : FieldDescriptor.ofJson value = .ok field) : Matches value .oneField (.oneField field)
  | sectionMap {members : List (String × Json)} {bodies : List (String × SectionBody)}
      (h : MatchesAll members bodies) :
      Matches (.obj members) .sectionMap (.sectionMap (Assoc.ofList bodies))

inductive MatchesAll : List (String × Json) → List (String × SectionBody) → Prop
  | nil : MatchesAll [] []
  | cons {key : String} {value : Json} {shape : Shape} {body : SectionBody}
      {rest : List (String × Json)} {bodies : List (String × SectionBody)}
      (head : Matches value shape body) (tail : MatchesAll rest bodies) :
      MatchesAll ((key, value) :: rest) ((key, body) :: bodies)
end

theorem bodiesOf?_of_ofJson {members : List (String × Json)} {field : FieldDescriptor}
    (h : FieldDescriptor.ofJson (.obj members) = .ok field) : bodiesOf? members = none := by
  apply bodiesOf?_of_idText?
  rw [(FieldDescriptor.idText?_of_ofJson h).1, Option.isSome_some]

theorem bodiesOf?_cons (key : String) (value : Json) (rest : List (String × Json)) :
    bodiesOf? ((key, value) :: rest) =
      (ofJson? value).bind fun body =>
        (bodiesOf? rest).map fun bodies => (key, body) :: bodies := by
  rw [bodiesOf?]
  cases ofJson? value <;> cases bodiesOf? rest <;> rfl

mutual
/-- Whatever shape a value matches, the reader finds it. -/
theorem ofJson?_of_matches {value : Json} {shape : Shape} {body : SectionBody}
    (h : Matches value shape body) : ofJson? value = some body := by
  match h with
  | .fieldList hfields => rw [ofJson?, hfields, Option.map_some]
  | .oneField hfield =>
      cases value with
      | obj members => rw [ofJson?, hfield]
      | _ => simp [FieldDescriptor.ofJson] at hfield
  | @Matches.sectionMap members _ hall =>
      have hbodies := bodiesOf?_of_matchesAll hall
      rw [ofJson?]
      cases hread : FieldDescriptor.ofJson (.obj members) with
      | error e => rw [hbodies, Option.map_some]
      | ok field =>
          rw [bodiesOf?_of_ofJson hread] at hbodies
          cases hbodies

theorem bodiesOf?_of_matchesAll {members : List (String × Json)}
    {bodies : List (String × SectionBody)} (h : MatchesAll members bodies) :
    bodiesOf? members = some bodies := by
  match h with
  | .nil => rw [bodiesOf?]
  | .cons hhead htail =>
      rw [bodiesOf?_cons, ofJson?_of_matches hhead, bodiesOf?_of_matchesAll htail,
        Option.bind_some, Option.map_some]
end

mutual
theorem exists_matches_of_ofJson? (value : Json) {body : SectionBody}
    (h : ofJson? value = some body) : ∃ shape, Matches value shape body := by
  match value with
  | .null | .bool _ | .num _ | .str _ => simp [ofJson?] at h
  | .arr items =>
      rw [ofJson?] at h
      obtain ⟨fields, hfields, rfl⟩ := Option.map_eq_some_iff.mp h
      exact ⟨_, .fieldList hfields⟩
  | .obj members =>
      rw [ofJson?] at h
      split at h
      · next field hfield =>
          cases h
          exact ⟨_, .oneField hfield⟩
      · obtain ⟨bodies, hbodies, rfl⟩ := Option.map_eq_some_iff.mp h
        exact ⟨_, .sectionMap (matchesAll_of_bodiesOf? members hbodies)⟩

theorem matchesAll_of_bodiesOf? (members : List (String × Json))
    {bodies : List (String × SectionBody)} (h : bodiesOf? members = some bodies) :
    MatchesAll members bodies := by
  match members with
  | [] =>
      rw [bodiesOf?] at h
      cases h
      exact .nil
  | (key, value) :: rest =>
      rw [bodiesOf?_cons] at h
      obtain ⟨body, hbody, hmap⟩ := Option.bind_eq_some_iff.mp h
      obtain ⟨bodies, hrest, rfl⟩ := Option.map_eq_some_iff.mp hmap
      obtain ⟨shape, hshape⟩ := exists_matches_of_ofJson? value hbody
      exact .cons hshape (matchesAll_of_bodiesOf? rest hrest)
end

variable {value : Json} {members : List (String × Json)} {shape shape' : Shape}
  {body body' : SectionBody} {bodies : List (String × SectionBody)}

theorem ofJson?_eq_some_iff : ofJson? value = some body ↔ ∃ shape, Matches value shape body :=
  ⟨exists_matches_of_ofJson? value, fun ⟨_, h⟩ => ofJson?_of_matches h⟩

theorem bodiesOf?_eq_some_iff : bodiesOf? members = some bodies ↔ MatchesAll members bodies :=
  ⟨matchesAll_of_bodiesOf? members, bodiesOf?_of_matchesAll⟩

theorem Matches.shape_eq (h : Matches value shape body) : body.shape = shape := by
  cases h <;> rfl

theorem Matches.unique (h : Matches value shape body) (h' : Matches value shape' body') :
    shape = shape' ∧ body = body' := by
  have hbody : body = body' :=
    Option.some.inj ((ofJson?_of_matches h).symm.trans (ofJson?_of_matches h'))
  exact ⟨by rw [← h.shape_eq, ← h'.shape_eq, hbody], hbody⟩

/-- The value is an object, and its members can be understood as these bodies. -/
def HasSections (value : Json) (bodies : List (String × SectionBody)) : Prop :=
  ∃ members, value = .obj members ∧ MatchesAll members bodies

/-- What trying one shape gives, once the sections in the value have been read. -/
def attempt (value : Json) (sections : Option (List (String × SectionBody))) :
    Shape → Option SectionBody
  | .fieldList => (fieldsIn? value).map .fieldList
  | .oneField => (FieldDescriptor.ofJson value).toOption.map .oneField
  | .sectionMap => sections.map fun bodies => .sectionMap (Assoc.ofList bodies)

mutual
/-- The sections in a value, read by trying the shapes of each in the order for it. -/
def sectionsTrying (order : Json → TrialOrder Shape) :
    Json → Option (List (String × SectionBody))
  | .obj members => bodiesTrying order members
  | _ => none

def bodiesTrying (order : Json → TrialOrder Shape) :
    List (String × Json) → Option (List (String × SectionBody))
  | [] => some []
  | (key, value) :: rest =>
      ((order value).firstResult (attempt value (sectionsTrying order value))).bind fun body =>
        (bodiesTrying order rest).map fun bodies => (key, body) :: bodies
end

/-- The body that a value is read as by trying the shapes in the order for it. -/
def readTrying (order : Json → TrialOrder Shape) (value : Json) : Option SectionBody :=
  (order value).firstResult (attempt value (sectionsTrying order value))

theorem attempt_eq_some_iff {sections : Option (List (String × SectionBody))}
    (hsections : ∀ bodies, sections = some bodies ↔ HasSections value bodies) :
    attempt value sections shape = some body ↔ Matches value shape body := by
  constructor
  · intro h
    cases shape with
    | fieldList =>
        obtain ⟨fields, hin, rfl⟩ := Option.map_eq_some_iff.mp h
        obtain ⟨items, rfl, hfields⟩ := fieldsIn?_eq_some_iff.mp hin
        exact .fieldList hfields
    | oneField =>
        obtain ⟨field, hfield, rfl⟩ := Option.map_eq_some_iff.mp h
        cases hread : FieldDescriptor.ofJson value with
        | error e =>
            rw [hread] at hfield
            cases hfield
        | ok read =>
            rw [hread] at hfield
            cases hfield
            exact .oneField hread
    | sectionMap =>
        obtain ⟨bodies, hbodies, rfl⟩ := Option.map_eq_some_iff.mp h
        obtain ⟨members, rfl, hall⟩ := (hsections bodies).mp hbodies
        exact .sectionMap hall
  · intro h
    cases h with
    | fieldList hfields => rw [attempt, fieldsIn?, hfields, Option.map_some]
    | oneField hfield => rw [attempt, hfield, Except.toOption, Option.map_some]
    | sectionMap hall => rw [attempt, (hsections _).mpr ⟨_, rfl, hall⟩, Option.map_some]

theorem firstResult_attempt (order : TrialOrder Shape)
    {sections : Option (List (String × SectionBody))}
    (hsections : ∀ bodies, sections = some bodies ↔ HasSections value bodies) :
    order.firstResult (attempt value sections) = ofJson? value := by
  refine order.firstResult_eq fun body => ?_
  simp only [ofJson?_eq_some_iff, attempt_eq_some_iff hsections]

mutual
theorem sectionsTrying_eq_some_iff (order : Json → TrialOrder Shape) (value : Json)
    (bodies : List (String × SectionBody)) :
    sectionsTrying order value = some bodies ↔ HasSections value bodies := by
  match value with
  | .null | .bool _ | .num _ | .str _ | .arr _ => simp [sectionsTrying, HasSections]
  | .obj members =>
      rw [sectionsTrying, bodiesTrying_eq order members, bodiesOf?_eq_some_iff]
      constructor
      · exact fun hall => ⟨members, rfl, hall⟩
      · rintro ⟨_, hmembers, hall⟩
        cases hmembers
        exact hall

theorem bodiesTrying_eq (order : Json → TrialOrder Shape) (members : List (String × Json)) :
    bodiesTrying order members = bodiesOf? members := by
  match members with
  | [] => rw [bodiesTrying, bodiesOf?]
  | (key, value) :: rest =>
      rw [bodiesTrying, bodiesOf?_cons, bodiesTrying_eq order rest,
        firstResult_attempt (order value) (sectionsTrying_eq_some_iff order value)]
end

theorem readTrying_eq (order : Json → TrialOrder Shape) (value : Json) :
    readTrying order value = ofJson? value :=
  firstResult_attempt (order value) (sectionsTrying_eq_some_iff order value)

end SectionBody

/-! ### Documents -/

namespace SchemaDocument

inductive Shape
  | flat
  | sectioned
  deriving DecidableEq

inductive Matches : Json → Shape → SchemaDocument → Prop
  | flat {items : List Json} {fields : List FieldDescriptor} (h : readFields? items = some fields) :
      Matches (.arr items) .flat (.flat fields)
  | sectioned {members : List (String × Json)} {bodies : List (String × SectionBody)}
      (h : SectionBody.MatchesAll members bodies) :
      Matches (.obj members) .sectioned (.sectioned (Assoc.ofList bodies))

def attempt (value : Json) (sections : Option (List (String × SectionBody))) :
    Shape → Option SchemaDocument
  | .flat => (fieldsIn? value).map .flat
  | .sectioned => sections.map fun bodies => .sectioned (Assoc.ofList bodies)

/-- The document that a value is read as by trying the shapes in one order, and those of every
section in it in the order for that. -/
def readTrying (order : TrialOrder Shape) (bodyOrder : Json → TrialOrder SectionBody.Shape)
    (value : Json) : Option SchemaDocument :=
  order.firstResult (attempt value (SectionBody.sectionsTrying bodyOrder value))

variable {value : Json} {shape shape' : Shape} {schema schema' : SchemaDocument}

theorem ofJson?_eq_some_iff :
    ofJson? value = some schema ↔ ∃ shape, Matches value shape schema := by
  constructor
  · intro h
    cases value with
    | null | bool | num | str => cases h
    | arr items =>
        obtain ⟨fields, hfields, rfl⟩ := Option.map_eq_some_iff.mp h
        exact ⟨_, .flat hfields⟩
    | obj members =>
        obtain ⟨bodies, hbodies, rfl⟩ := Option.map_eq_some_iff.mp h
        exact ⟨_, .sectioned (SectionBody.bodiesOf?_eq_some_iff.mp hbodies)⟩
  · rintro ⟨shape, h⟩
    cases h with
    | flat hfields => rw [ofJson?, hfields, Option.map_some]
    | sectioned hall => rw [ofJson?, SectionBody.bodiesOf?_eq_some_iff.mpr hall, Option.map_some]

theorem Matches.unique (h : Matches value shape schema) (h' : Matches value shape' schema') :
    shape = shape' ∧ schema = schema' := by
  have hschema : schema = schema' :=
    Option.some.inj ((ofJson?_eq_some_iff.mpr ⟨_, h⟩).symm.trans (ofJson?_eq_some_iff.mpr ⟨_, h'⟩))
  refine ⟨?_, hschema⟩
  cases h <;> cases h' <;> rfl

theorem attempt_eq_some_iff (bodyOrder : Json → TrialOrder SectionBody.Shape) :
    attempt value (SectionBody.sectionsTrying bodyOrder value) shape = some schema ↔
      Matches value shape schema := by
  constructor
  · intro h
    cases shape with
    | flat =>
        obtain ⟨fields, hin, rfl⟩ := Option.map_eq_some_iff.mp h
        obtain ⟨items, rfl, hfields⟩ := fieldsIn?_eq_some_iff.mp hin
        exact .flat hfields
    | sectioned =>
        obtain ⟨bodies, hbodies, rfl⟩ := Option.map_eq_some_iff.mp h
        obtain ⟨members, rfl, hall⟩ :=
          (SectionBody.sectionsTrying_eq_some_iff bodyOrder value bodies).mp hbodies
        exact .sectioned hall
  · intro h
    cases h with
    | flat hfields => rw [attempt, fieldsIn?, hfields, Option.map_some]
    | sectioned hall =>
        rw [attempt, (SectionBody.sectionsTrying_eq_some_iff bodyOrder _ _).mpr ⟨_, rfl, hall⟩,
          Option.map_some]

theorem readTrying_eq (order : TrialOrder Shape) (bodyOrder : Json → TrialOrder SectionBody.Shape)
    (value : Json) : readTrying order bodyOrder value = ofJson? value := by
  refine order.firstResult_eq fun schema => ?_
  simp only [ofJson?_eq_some_iff, attempt_eq_some_iff]

/-- A value matches one shape of a document at most, and one of a section's body, and what is read
from it is what it matches, in whatever orders the shapes are tried: the document's at the top, and
the bodies' at every place below. -/
theorem shapes_unambiguous (value : Json) :
    (∀ shape shape' body body', SectionBody.Matches value shape body →
      SectionBody.Matches value shape' body' → shape = shape' ∧ body = body') ∧
    (∀ body, SectionBody.ofJson? value = some body ↔
      ∃ shape, SectionBody.Matches value shape body) ∧
    (∀ shape shape' schema schema', Matches value shape schema →
      Matches value shape' schema' → shape = shape' ∧ schema = schema') ∧
    (∀ schema, ofJson? value = some schema ↔ ∃ shape, Matches value shape schema) ∧
    ∀ (order : TrialOrder Shape) (bodyOrder : Json → TrialOrder SectionBody.Shape),
      SectionBody.readTrying bodyOrder value = SectionBody.ofJson? value ∧
        readTrying order bodyOrder value = ofJson? value :=
  ⟨fun _ _ _ _ => SectionBody.Matches.unique, fun _ => SectionBody.ofJson?_eq_some_iff,
    fun _ _ _ _ => Matches.unique, fun _ => ofJson?_eq_some_iff,
    fun order bodyOrder => ⟨SectionBody.readTrying_eq bodyOrder value,
      readTrying_eq order bodyOrder value⟩⟩

/-- A page with a section named `id`, and others in that and beside it named like what else a field
has. -/
def idPage : Json :=
  .obj [("id", .obj [("id", .arr []), ("type", .obj [])]), ("label", .obj [("id", .str "title")])]

def idSections : List (String × SectionBody) :=
  [("id", .sectionMap [("id", .fieldList []), ("type", .sectionMap [])]),
    ("label", .oneField ⟨"title", "title", .other "", [], .empty, []⟩)]

def bodiesBackwards : TrialOrder SectionBody.Shape :=
  ⟨[.sectionMap, .oneField, .fieldList], by intro shape; cases shape <;> decide⟩

def backwards : TrialOrder Shape :=
  ⟨[.sectioned, .flat], by intro shape; cases shape <;> decide⟩

theorem shapes_unambiguous_idPage :
    SectionBody.Matches idPage .sectionMap (.sectionMap idSections) ∧
      (∀ shape body, SectionBody.Matches idPage shape body →
        shape = .sectionMap ∧ body = .sectionMap idSections) ∧
      readTrying backwards (fun _ => bodiesBackwards) idPage = some (.sectioned idSections) := by
  obtain ⟨hunique, hread, -, -, horder⟩ := shapes_unambiguous idPage
  obtain ⟨shape, hmatches⟩ := (hread (.sectionMap idSections)).mp rfl
  obtain rfl : SectionBody.Shape.sectionMap = shape := hmatches.shape_eq
  exact ⟨hmatches, fun _ _ h => hunique _ _ _ _ h hmatches,
    (horder backwards fun _ => bodiesBackwards).2⟩

end SchemaDocument

end ContentForms

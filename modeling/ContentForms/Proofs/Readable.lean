import ContentForms.Proofs.Entries
import ContentForms.Schema.Document
import Mathlib.Data.List.Forall2

/-!
What is read as a field. Leniency has two sides. Whatever stands under the other keys, an object
with a text for its `id` is a field with that id; and where a list of fields is nested in a field,
an item that is none is passed over and costs no other item its place. One fault is not forgiven
all the same: a kind that is spelled twice, as `type` and as `kind`. It makes an item unreadable
like a missing id, so a nested field that has it is lost, and a list of fields that holds it is no
schema.
-/

namespace ContentForms

namespace Json

/-- The id of a value that is to be read as a field: the text under `id`. -/
def idText? (value : Json) : Option String :=
  (value.get? "id").bind text?

def spellsKindTwice (value : Json) : Bool :=
  (value.get? "kind").isSome && (value.get? "type").isSome

/-- An object with a text for its id, and its kind in one spelling at most. -/
def isField (value : Json) : Bool :=
  value.idText?.isSome && !value.spellsKindTwice

def items : Json → List Json
  | .arr items => items
  | _ => []

def nestedItems (value : Json) : List Json :=
  ((value.get? "fields").map items).getD []

end Json

namespace FieldDescriptor

variable {value : Json} {members : List (String × Json)} {field : FieldDescriptor} {id : String}

/-! ### One field -/

theorem idOf_eq_ok_iff :
    idOf members = .ok id ↔
      (Json.obj members).idText? = some id ∧ (Json.obj members).spellsKindTwice = false := by
  have htwice : idOf.bothKinds members = (Json.obj members).spellsKindTwice := rfl
  have htext : (Json.obj members).idText? = (Assoc.get? "id" members).bind Json.text? := rfl
  unfold idOf
  rw [htwice, htext]
  cases (Json.obj members).spellsKindTwice with
  | true => cases Assoc.get? "id" members with
    | none => simp
    | some text => cases text <;> simp
  | false => cases Assoc.get? "id" members with
    | none => simp
    | some text => cases text <;> simp [Json.text?]

theorem ofJson_obj_eq_ok_iff :
    ofJson (.obj members) = .ok field ↔
      ∃ id, idOf members = .ok id ∧ build id (nestedOf members) members = field := by
  rw [ofJson]
  cases idOf members <;> simp [Except.map]

/-- A field that is read has the id of its value, and its kind was not spelled twice. -/
theorem idText?_of_ofJson (h : ofJson value = .ok field) :
    value.idText? = some field.id ∧ value.spellsKindTwice = false := by
  cases value with
  | obj members =>
      obtain ⟨id, hid, rfl⟩ := ofJson_obj_eq_ok_iff.mp h
      exact idOf_eq_ok_iff.mp hid
  | _ => simp [ofJson] at h

/-- Nothing but the id and the spelling of the kind decides whether a value is read. -/
theorem exists_ofJson (hid : value.idText? = some id) (honce : value.spellsKindTwice = false) :
    ∃ field, ofJson value = .ok field ∧ field.id = id := by
  cases value with
  | obj members =>
      have hidOf : idOf members = .ok id := idOf_eq_ok_iff.mpr ⟨hid, honce⟩
      exact ⟨build id (nestedOf members) members, ofJson_obj_eq_ok_iff.mpr ⟨id, hidOf, rfl⟩, rfl⟩
  | _ => simp [Json.idText?, Json.get?] at hid

theorem isField_iff : value.isField ↔ ∃ field, ofJson value = .ok field := by
  rw [Json.isField, Bool.and_eq_true, Bool.not_eq_true', Option.isSome_iff_exists]
  constructor
  · rintro ⟨⟨id, hid⟩, honce⟩
    obtain ⟨field, hread, -⟩ := exists_ofJson hid honce
    exact ⟨field, hread⟩
  · rintro ⟨field, hread⟩
    obtain ⟨hid, honce⟩ := idText?_of_ofJson hread
    exact ⟨⟨field.id, hid⟩, honce⟩

/-! ### Lists of fields -/

def Reads (item : Json) (field : FieldDescriptor) : Prop :=
  ofJson item = .ok field ∧ item.idText? = some field.id

theorem reads_iff : Reads value field ↔ ofJson value = .ok field :=
  ⟨And.left, fun h => ⟨h, (idText?_of_ofJson h).1⟩⟩

theorem readFields?_eq_some_iff {items : List Json} {fields : List FieldDescriptor} :
    readFields? items = some fields ↔ List.Forall₂ Reads items fields := by
  induction items generalizing fields with
  | nil => simp [readFields?, eq_comm]
  | cons item rest ih =>
      have hcons : readFields? (item :: rest) = (ofJson item).toOption.bind fun field =>
          (readFields? rest).bind fun fields => some (field :: fields) := by
        simp [readFields?]
      rw [hcons, List.forall₂_cons_left_iff]
      cases hitem : ofJson item with
      | error e => simp [Except.toOption, reads_iff, hitem]
      | ok field =>
          simp only [Except.toOption, Option.bind_some, Option.bind_eq_some_iff, Option.some.injEq,
            reads_iff, hitem, Except.ok.injEq]
          constructor
          · rintro ⟨fields, hrest, rfl⟩
            exact ⟨field, fields, rfl, ih.mp hrest, rfl⟩
          · rintro ⟨_, fields, rfl, hrest, rfl⟩
            exact ⟨fields, ih.mpr hrest, rfl⟩

/-- The items of a list can be read together if each of them can be. -/
theorem exists_forall₂_reads_iff {items : List Json} :
    (∃ fields, List.Forall₂ Reads items fields) ↔ ∀ item ∈ items, item.isField := by
  induction items with
  | nil => simp
  | cons item rest ih =>
      rw [List.forall_mem_cons, ← ih, isField_iff]
      constructor
      · rintro ⟨_, hreads⟩
        obtain ⟨field, fields, hitem, hrest, rfl⟩ := List.forall₂_cons_left_iff.mp hreads
        exact ⟨⟨field, hitem.1⟩, fields, hrest⟩
      · rintro ⟨⟨field, hitem⟩, fields, hrest⟩
        exact ⟨field :: fields, .cons (reads_iff.mpr hitem) hrest⟩

theorem forall₂_keepReadable (items : List Json) :
    List.Forall₂ Reads (items.filter Json.isField) (keepReadable items) := by
  induction items with
  | nil => exact .nil
  | cons item rest ih =>
      cases hitem : ofJson item with
      | ok field =>
          have hkept : keepReadable (item :: rest) = field :: keepReadable rest := by
            simp [keepReadable, hitem]
          rw [hkept, List.filter_cons_of_pos (isField_iff.mpr ⟨field, hitem⟩)]
          exact .cons (reads_iff.mpr hitem) ih
      | error e =>
          have hdropped : keepReadable (item :: rest) = keepReadable rest := by
            simp [keepReadable, hitem]
          have hnone : ¬item.isField := by
            rw [isField_iff, hitem]
            simp
          rwa [hdropped, List.filter_cons_of_neg hnone]

theorem itemsOf_eq (value : Json) : itemsOf value = keepReadable value.items := by
  cases value <;> simp [itemsOf, Json.items, keepReadable]

theorem nestedOf_eq (members : List (String × Json)) :
    nestedOf members = ((Assoc.get? "fields" members).map itemsOf).getD [] := by
  induction members with
  | nil => simp [nestedOf]
  | cons member rest ih =>
      obtain ⟨key, value⟩ := member
      by_cases hkey : key = "fields" <;> simp [nestedOf, Assoc.get?, hkey, ih]

theorem fields_of_ofJson (h : ofJson value = .ok field) :
    field.fields = keepReadable value.nestedItems := by
  cases value with
  | obj members =>
      obtain ⟨id, -, rfl⟩ := ofJson_obj_eq_ok_iff.mp h
      show nestedOf members = keepReadable (((Assoc.get? "fields" members).map Json.items).getD [])
      rw [nestedOf_eq]
      cases Assoc.get? "fields" members with
      | none => simp [keepReadable]
      | some nested => exact itemsOf_eq nested
  | _ => simp [ofJson] at h

/-! ### Leniency -/

/-- A value with a text for its id is read as a field with that id, whatever else it holds, unless
its kind is spelled twice. So a list is a schema with a field for each of its items, in order, if
and only if all of them are such values, and the nested fields of whatever is read are those of the
nested items that are, in order and without a gap. -/
theorem reads_leniently (value : Json) (items : List Json) :
    (∀ id, value.idText? = some id →
      ((∃ field, ofJson value = .ok field ∧ field.id = id) ↔ value.spellsKindTwice = false)) ∧
    ((∃ fields, SchemaDocument.ofJson? (.arr items) = some (.flat fields) ∧
      List.Forall₂ Reads items fields) ↔ ∀ item ∈ items, item.isField) ∧
    ∀ field, ofJson value = .ok field →
      List.Forall₂ Reads (value.nestedItems.filter Json.isField) field.fields := by
  refine ⟨?_, ?_, ?_⟩
  · intro id hid
    constructor
    · rintro ⟨field, hread, -⟩
      exact (idText?_of_ofJson hread).2
    · exact exists_ofJson hid
  · rw [← exists_forall₂_reads_iff]
    refine exists_congr fun fields => and_iff_right_of_imp fun hreads => ?_
    rw [SchemaDocument.ofJson?, readFields?_eq_some_iff.mpr hreads]
    rfl
  · intro field hread
    rw [fields_of_ofJson hread]
    exact forall₂_keepReadable value.nestedItems

/-- A group of which one nested item is a field, with a list for its label and a number for its
kind, and the two others are not. -/
def mixedGroup : Json :=
  .obj [("fields", .arr [.str "text", .obj [("id", .str "a"), ("label", .arr []),
    ("type", .num (.int 5))], .obj [("label", .str "no id")]]), ("id", .str "group")]

/-- The group is read, alone and in a list, and keeps the one field that it can. -/
theorem reads_leniently_mixedGroup :
    mixedGroup.idText? = some "group" ∧ mixedGroup.isField ∧
      (∃ field, ofJson mixedGroup = .ok field ∧ field.id = "group" ∧
        List.Forall₂ Reads [.obj [("id", .str "a"), ("label", .arr []), ("type", .num (.int 5))]]
          field.fields) ∧
      ∃ fields, SchemaDocument.ofJson? (.arr [mixedGroup, mixedGroup]) = some (.flat fields) ∧
        List.Forall₂ Reads [mixedGroup, mixedGroup] fields := by
  have hid : mixedGroup.idText? = some "group" := rfl
  have hfield : mixedGroup.isField := rfl
  have hlist : ∀ item ∈ [mixedGroup, mixedGroup], item.isField := by simp [hfield]
  obtain ⟨hone, hmany, hnested⟩ := reads_leniently mixedGroup [mixedGroup, mixedGroup]
  obtain ⟨field, hread, hgroup⟩ := (hone "group" hid).mpr rfl
  exact ⟨hid, hfield, ⟨field, hread, hgroup, hnested field hread⟩, hmany.mpr hlist⟩

/-- A field of text whose kind is spelled both ways, with the same name. -/
def twiceSpelled : Json :=
  .obj [("id", .str "a"), ("kind", .str "string"), ("type", .str "string")]

/-- Although it has a text for its id, it is refused; a list with it is no schema, and nested in
another field it is dropped. -/
theorem twiceSpelled_is_refused :
    twiceSpelled.idText? = some "a" ∧
      ofJson twiceSpelled = .error (.duplicateField "type") ∧
      SchemaDocument.ofJson? (.arr [twiceSpelled]) = none ∧
      ofJson (.obj [("fields", .arr [twiceSpelled]), ("id", .str "group")]) =
        .ok ⟨"group", "group", .other "", [], .empty, []⟩ := by
  refine ⟨rfl, rfl, rfl, rfl⟩

end FieldDescriptor

end ContentForms

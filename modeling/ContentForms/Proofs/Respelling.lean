import ContentForms.Proofs.Options
import ContentForms.Proofs.Readable
import ContentForms.Schema.Loaded
import Mathlib.Logic.Relation

/-!
The spellings that schemas have used over time. A kind may stand under `kind` or `type`, options may
be a bare list or an object with one, an option may be a scalar, a text or an object, and what is
left out may be written as `null` or as what it defaults to. Each of these differences is a step
between two values, at one place of a schema; any number of them, in either direction, leads from
one spelling of a schema to another one. So it is enough to see that no step changes what is read.

A step inside a field is a step of the field, through its nested fields at any depth. Where a value
stands as the body of a section, its steps are those of a field if it is one, and otherwise those of
the fields in it, through lists and maps of sections.
-/

namespace ContentForms

namespace Assoc

variable {α : Type u} {key : String} {p : String → Bool}

theorem filter_replace (hkey : p key = false) (value : α) (entries : List (String × α)) :
    (replace key value entries).filter (fun entry => p entry.1) =
      entries.filter fun entry => p entry.1 := by
  induction entries with
  | nil => rfl
  | cons entry rest ih =>
      obtain ⟨k, v⟩ := entry
      by_cases hk : k = key
      · simp [replace, hk, hkey]
      · simp [replace, hk, List.filter_cons, ih]

theorem filter_place (hkey : p key = false) (value : α) (entries : List (String × α)) :
    (place key value entries).filter (fun entry => p entry.1) =
      entries.filter fun entry => p entry.1 := by
  induction entries with
  | nil => simp [place, hkey]
  | cons entry rest ih =>
      obtain ⟨k, v⟩ := entry
      by_cases hlt : key < k
      · simp [place, hlt, hkey]
      · simp [place, hlt, List.filter_cons, ih]

theorem filter_insert (hkey : p key = false) (value : α) (entries : List (String × α)) :
    (insert key value entries).filter (fun entry => p entry.1) =
      entries.filter fun entry => p entry.1 := by
  unfold insert
  split
  · exact filter_replace hkey value entries
  · exact filter_place hkey value entries

theorem filter_erase (hkey : p key = false) (entries : List (String × α)) :
    (erase key entries).filter (fun entry => p entry.1) =
      entries.filter fun entry => p entry.1 := by
  rw [erase, List.filter_filter]
  refine List.filter_congr fun entry _ => ?_
  by_cases hk : entry.1 = key <;> simp [hk, hkey]

end Assoc

/-! ### Options -/

/-- An option in another spelling: a scalar as its text, as an object with it for the value, or as
one that names the text for a label, too. -/
inductive SelectOption.Respelled : Json → Json → Prop
  | text {item : Json} {text : String} (h : item.scalarText? = some text) :
      Respelled item (.str text)
  | pair {item : Json} {text : String} (h : item.scalarText? = some text) :
      Respelled item (.obj [("value", item)])
  | labelled {item : Json} {text : String} (h : item.scalarText? = some text) :
      Respelled item (.obj [("label", .str text), ("value", item)])

theorem SelectOption.ofItem?_respelled {item item' : Json} (h : SelectOption.Respelled item item') :
    ofItem? item = ofItem? item' := by
  cases h with
  | text h => rw [ofItem?_of_scalarText? h, ofItem?_of_scalarText? rfl]
  | pair h =>
      rw [ofItem?_of_scalarText? h, ofItem?_obj]
      simp [Assoc.get?, h, plain]
  | @labelled text h =>
      have htext : (Json.str text).scalarText? = some text := rfl
      rw [ofItem?_of_scalarText? h, ofItem?_obj]
      simp [Assoc.get?, h, htext, plain]

/-- Options in another spelling: a bare list as an object with it, a flag that says what holds
without it, or one option of either list. -/
inductive OptionSet.Respelled : Json → Json → Prop
  | bare (items : List Json) : Respelled (.arr items) (.obj [("values", .arr items)])
  | single {members : List (String × Json)} (h : Assoc.get? "multiple" members = none) :
      Respelled (.obj members) (.obj (Assoc.insert "multiple" (.bool false) members))
  | item (before after : List Json) {item item' : Json} (h : SelectOption.Respelled item item') :
      Respelled (.arr (before ++ item :: after)) (.arr (before ++ item' :: after))
  | value {members : List (String × Json)} (before after : List Json) {item item' : Json}
      (hvalues : Assoc.get? "values" members = some (.arr (before ++ item :: after)))
      (h : SelectOption.Respelled item item') :
      Respelled (.obj members)
        (.obj (Assoc.insert "values" (.arr (before ++ item' :: after)) members))

theorem OptionSet.ofItems_respelled (before after : List Json) {item item' : Json}
    (h : SelectOption.Respelled item item') (multiple : Bool) :
    ofItems (before ++ item :: after) multiple = ofItems (before ++ item' :: after) multiple := by
  simp only [ofItems, List.filterMap_append, List.filterMap_cons, SelectOption.ofItem?_respelled h]

theorem OptionSet.ofJson_respelled {raw raw' : Json} (h : OptionSet.Respelled raw raw') :
    ofJson raw = ofJson raw' := by
  cases h with
  | bare items => rfl
  | @single members h =>
      have hvalues : Assoc.get? "values" (Assoc.insert "multiple" (.bool false) members) =
          Assoc.get? "values" members := Assoc.get?_insert_of_ne (by decide) _ _
      simp [ofJson, hvalues, h, Json.bool?]
  | item before after h => exact ofItems_respelled before after h false
  | @value members before after item item' hvalues h =>
      have hmultiple (list : Json) : Assoc.get? "multiple" (Assoc.insert "values" list members) =
          Assoc.get? "multiple" members := Assoc.get?_insert_of_ne (by decide) _ _
      simp only [ofJson, hvalues, Assoc.get?_insert_self, hmultiple]
      exact ofItems_respelled before after h _

/-! ### Fields -/

/-- A field in another spelling, in its own members or in those of a field nested in it. -/
inductive FieldDescriptor.Respelled : Json → Json → Prop
  | kind {members : List (String × Json)} {value : Json}
      (htype : Assoc.get? "type" members = some value) (hkind : Assoc.get? "kind" members = none) :
      Respelled (.obj members) (.obj (Assoc.insert "kind" value (Assoc.erase "type" members)))
  | noKind {members : List (String × Json)} (htype : Assoc.get? "type" members = none)
      (hkind : Assoc.get? "kind" members = none) :
      Respelled (.obj members) (.obj (Assoc.insert "type" .null members))
  | label {members : List (String × Json)} {id : String}
      (hid : Assoc.get? "id" members = some (.str id))
      (hlabel : Assoc.get? "label" members = none) :
      Respelled (.obj members) (.obj (Assoc.insert "label" (.str id) members))
  | null {members : List (String × Json)} {key : String}
      (hkey : key ∈ ["label", "fields", "options"])
      (h : Assoc.get? key members = none) :
      Respelled (.obj members) (.obj (Assoc.insert key .null members))
  | options {members : List (String × Json)} {raw raw' : Json}
      (hoptions : Assoc.get? "options" members = some raw) (h : OptionSet.Respelled raw raw') :
      Respelled (.obj members) (.obj (Assoc.insert "options" raw' members))
  | nested {members : List (String × Json)} (before after : List Json) {item item' : Json}
      (hfields : Assoc.get? "fields" members = some (.arr (before ++ item :: after)))
      (h : Respelled item item') :
      Respelled (.obj members)
        (.obj (Assoc.insert "fields" (.arr (before ++ item' :: after)) members))

namespace FieldDescriptor

variable {members members' : List (String × Json)}

theorem get?_id_of_idOf {id : String} (h : idOf members = .ok id) :
    Assoc.get? "id" members = some (.str id) := by
  obtain ⟨value, hvalue, htext⟩ := Option.bind_eq_some_iff.mp (idOf_eq_ok_iff.mp h).1
  cases value with
  | str text =>
      cases htext
      exact hvalue
  | _ => cases htext

/-- Objects with the same id are read alike if the same is built of them under that id. -/
theorem ofJson_obj_congr (hid : idOf members = idOf members')
    (hbuild : ∀ id, Assoc.get? "id" members = some (.str id) →
      build id (nestedOf members) members = build id (nestedOf members') members') :
    ofJson (.obj members) = ofJson (.obj members') := by
  rw [ofJson, ofJson, ← hid]
  cases hread : idOf members with
  | error e => rfl
  | ok id => exact congrArg Except.ok (hbuild id (get?_id_of_idOf hread))

/-- The id is read alike where neither it nor the two spellings of the kind make a difference. -/
theorem idOf_congr (hid : Assoc.get? "id" members = Assoc.get? "id" members')
    (htwice : idOf.bothKinds members = idOf.bothKinds members') :
    idOf members = idOf members' := by
  rw [idOf, idOf, hid, htwice]

theorem idOf_insert {key : String} (hid : key ≠ "id") (htype : key ≠ "type") (hkind : key ≠ "kind")
    (value : Json) (members : List (String × Json)) :
    idOf members = idOf (Assoc.insert key value members) := by
  apply idOf_congr
  · rw [Assoc.get?_insert_of_ne hid.symm]
  · rw [idOf.bothKinds, idOf.bothKinds, Assoc.contains, Assoc.contains, Assoc.contains,
      Assoc.contains, Assoc.get?_insert_of_ne htype.symm, Assoc.get?_insert_of_ne hkind.symm]

/-- A member with a meaning is not carried along. -/
theorem others_insert {key : String} (hkey : key ∈ knownKeys) (value : Json)
    (members : List (String × Json)) :
    (Assoc.insert key value members).filter (fun member => !knownKeys.contains member.1) =
      members.filter fun member => !knownKeys.contains member.1 :=
  Assoc.filter_insert (p := fun key => !knownKeys.contains key) (by simpa using hkey) value members

theorem others_erase {key : String} (hkey : key ∈ knownKeys) (members : List (String × Json)) :
    (Assoc.erase key members).filter (fun member => !knownKeys.contains member.1) =
      members.filter fun member => !knownKeys.contains member.1 :=
  Assoc.filter_erase (p := fun key => !knownKeys.contains key) (by simpa using hkey) members

/-- A label, nested fields or options can be entered if they read like what was there before. -/
theorem ofJson_insert {key : String} (hkey : key ∈ ["label", "fields", "options"]) {value : Json}
    (hlabel : key = "label" → ∀ id, Assoc.get? "id" members = some (.str id) →
      ((Assoc.get? "label" members).bind Json.scalarText?).getD id = value.scalarText?.getD id)
    (hfields : key = "fields" → nestedOf members = itemsOf value)
    (hoptions : key = "options" →
      ((Assoc.get? "options" members).map OptionSet.ofJson).getD .empty = OptionSet.ofJson value) :
    ofJson (.obj members) = ofJson (.obj (Assoc.insert key value members)) := by
  rw [nestedOf_eq] at hfields
  simp only [List.mem_cons, List.not_mem_nil, or_false] at hkey
  rcases hkey with rfl | rfl | rfl
  all_goals
    apply ofJson_obj_congr
    · exact idOf_insert (by decide) (by decide) (by decide) _ _
    · intro id hid
      rw [build, build, others_insert (by decide)]
      simp [nestedOf_eq, Assoc.get?_insert_of_ne, hlabel, hfields, hoptions, hid]

theorem keepReadable_respelled (before after : List Json) {item item' : Json}
    (h : ofJson item = ofJson item') :
    keepReadable (before ++ item :: after) = keepReadable (before ++ item' :: after) := by
  induction before with
  | nil => simp only [List.nil_append, keepReadable, h]
  | cons first rest ih => simp only [List.cons_append, keepReadable, ih]

/-- No spelling changes what is read as a field, or why it is not. -/
theorem ofJson_respelled {value value' : Json} (h : Respelled value value') :
    ofJson value = ofJson value' := by
  induction h with
  | @kind members value htype hkind =>
      apply ofJson_obj_congr
      · apply idOf_congr
        · simp [Assoc.get?_insert_of_ne, Assoc.get?_erase_of_ne]
        · simp [idOf.bothKinds, Assoc.contains, Assoc.get?_insert_of_ne, hkind]
      · intro id hid
        rw [build, build, others_insert (by decide), others_erase (by decide)]
        simp [nestedOf_eq, Assoc.get?_insert_of_ne, Assoc.get?_erase_of_ne, htype]
  | @noKind members htype hkind =>
      apply ofJson_obj_congr
      · apply idOf_congr
        · simp [Assoc.get?_insert_of_ne]
        · simp [idOf.bothKinds, Assoc.contains, Assoc.get?_insert_of_ne, hkind]
      · intro id hid
        rw [build, build, others_insert (by decide)]
        simp [nestedOf_eq, Assoc.get?_insert_of_ne, htype, hkind, kindOf]
  | @label members id hid hlabel =>
      refine ofJson_insert (by decide) (fun _ id' hid' => ?_) (fun h => absurd h (by decide))
        fun h => absurd h (by decide)
      -- The label that is written out is the id that stands there, so it is the one it defaults to.
      rw [hid] at hid'
      cases hid'
      rw [hlabel]
      rfl
  | @null members key hkey h =>
      refine ofJson_insert hkey (fun heq id hid => ?_) (fun heq => ?_) fun heq => ?_
      · subst heq
        rw [h]
        rfl
      · subst heq
        rw [nestedOf_eq, h]
        rfl
      · subst heq
        rw [h]
        rfl
  | options hoptions h =>
      refine ofJson_insert (by decide) (fun h => absurd h (by decide))
        (fun h => absurd h (by decide)) fun _ => ?_
      rw [hoptions, Option.map_some, Option.getD_some, OptionSet.ofJson_respelled h]
  | nested before after hfields _ ih =>
      refine ofJson_insert (by decide) (fun h => absurd h (by decide)) (fun _ => ?_)
        fun h => absurd h (by decide)
      rw [nestedOf_eq, hfields, Option.map_some, Option.getD_some, itemsOf, itemsOf]
      exact keepReadable_respelled before after ih

theorem readFields?_respelled (before after : List Json) {item item' : Json}
    (h : ofJson item = ofJson item') :
    readFields? (before ++ item :: after) = readFields? (before ++ item' :: after) := by
  simp only [readFields?, List.mapM_append, List.mapM_cons, h]

theorem Respelled.exists_obj {value value' : Json} (h : Respelled value value') :
    ∃ members members', value = .obj members ∧ value' = .obj members' ∧
      Assoc.get? "id" members = Assoc.get? "id" members' := by
  cases h with
  | kind =>
      refine ⟨_, _, rfl, rfl, ?_⟩
      rw [Assoc.get?_insert_of_ne (by decide), Assoc.get?_erase_of_ne (by decide)]
  | null hkey =>
      refine ⟨_, _, rfl, rfl, (Assoc.get?_insert_of_ne ?_ _ _).symm⟩
      rintro rfl
      exact absurd hkey (by decide)
  | _ => exact ⟨_, _, rfl, rfl, (Assoc.get?_insert_of_ne (by decide) _ _).symm⟩

end FieldDescriptor

/-! ### Sections and documents -/

/-- A schema, or the body of a section, in another spelling of one of its fields: of the field that
it is, of one in the list that it is, or of one inside the map of sections that it is. -/
inductive SectionBody.Respelled : Json → Json → Prop
  | field {value value' : Json} (hid : value.idText?.isSome)
      (h : FieldDescriptor.Respelled value value') : Respelled value value'
  | item (before after : List Json) {value value' : Json}
      (h : FieldDescriptor.Respelled value value') :
      Respelled (.arr (before ++ value :: after)) (.arr (before ++ value' :: after))
  | inside (before : List (String × Json)) (key : String) (after : List (String × Json))
      {value value' : Json}
      (hmap : (Json.obj (before ++ (key, value) :: after)).idText? = none)
      (h : Respelled value value') :
      Respelled (.obj (before ++ (key, value) :: after)) (.obj (before ++ (key, value') :: after))

namespace SectionBody

theorem Respelled.text?_eq_none {value value' : Json} (h : Respelled value value') :
    value.text? = none ∧ value'.text? = none := by
  cases h with
  | field _ h =>
      obtain ⟨_, _, rfl, rfl, -⟩ := h.exists_obj
      exact ⟨rfl, rfl⟩
  | item | inside => exact ⟨rfl, rfl⟩

theorem bodiesOf?_congr (before : List (String × Json)) (key : String)
    (after : List (String × Json)) {value value' : Json} (h : ofJson? value = ofJson? value') :
    bodiesOf? (before ++ (key, value) :: after) = bodiesOf? (before ++ (key, value') :: after) := by
  induction before with
  | nil => simp only [List.nil_append, bodiesOf?, h]
  | cons entry rest ih => simp only [List.cons_append, bodiesOf?, ih]

theorem bodiesOf?_eq_none {members : List (String × Json)} {key : String} {value : Json}
    (hmem : (key, value) ∈ members) (h : ofJson? value = none) : bodiesOf? members = none := by
  induction members with
  | nil => cases hmem
  | cons entry rest ih =>
      rw [bodiesOf?]
      rcases List.mem_cons.mp hmem with rfl | hmem
      · rw [h]
      · rw [ih hmem]
        cases ofJson? entry.2 <;> rfl

theorem bodiesOf?_of_idText? {members : List (String × Json)}
    (h : (Json.obj members).idText?.isSome) : bodiesOf? members = none := by
  obtain ⟨id, hid⟩ := Option.isSome_iff_exists.mp h
  obtain ⟨value, hvalue, htext⟩ := Option.bind_eq_some_iff.mp hid
  refine bodiesOf?_eq_none (Assoc.mem_of_get? hvalue) ?_
  cases value with
  | str text => simp [ofJson?]
  | _ => cases htext

/-- An object without a text for its id is a map of sections or nothing. -/
theorem ofJson?_of_idText? {members : List (String × Json)}
    (h : (Json.obj members).idText? = none) :
    ofJson? (.obj members) =
      (bodiesOf? members).map fun bodies => .sectionMap (Assoc.ofList bodies) := by
  rw [ofJson?]
  cases hread : FieldDescriptor.ofJson (.obj members) with
  | error e => rfl
  | ok field =>
      rw [(FieldDescriptor.idText?_of_ofJson hread).1] at h
      cases h

theorem idText?_congr (before : List (String × Json)) (key : String)
    (after : List (String × Json)) {value value' : Json} (h : value.text? = value'.text?) :
    (Json.obj (before ++ (key, value) :: after)).idText? =
      (Json.obj (before ++ (key, value') :: after)).idText? := by
  simp only [Json.idText?, Json.get?, Assoc.get?_append, Assoc.get?]
  cases Assoc.get? "id" before with
  | some first => rfl
  | none => by_cases hkey : key = "id" <;> simp [hkey, h]

theorem ofJson?_respelled {value value' : Json} (h : Respelled value value') :
    ofJson? value = ofJson? value' := by
  induction h with
  | field hid h =>
      have hread := FieldDescriptor.ofJson_respelled h
      obtain ⟨members, members', rfl, rfl, hsame⟩ := h.exists_obj
      have hid' : (Json.obj members').idText?.isSome := by
        simpa only [Json.idText?, Json.get?, hsame] using hid
      rw [ofJson?, ofJson?, hread, bodiesOf?_of_idText? hid, bodiesOf?_of_idText? hid']
  | item before after h =>
      rw [ofJson?, ofJson?,
        FieldDescriptor.readFields?_respelled before after (FieldDescriptor.ofJson_respelled h)]
  | inside before key after hmap h ih =>
      have htexts := h.text?_eq_none
      have hmap' := hmap
      rw [idText?_congr before key after (htexts.1.trans htexts.2.symm)] at hmap'
      rw [ofJson?_of_idText? hmap, ofJson?_of_idText? hmap', bodiesOf?_congr before key after ih]

end SectionBody

namespace SchemaDocument

theorem ofJson?_respelled {value value' : Json} (h : SectionBody.Respelled value value') :
    ofJson? value = ofJson? value' := by
  cases h with
  | field hid h =>
      -- A single field is the body of a section, but no document.
      obtain ⟨members, members', rfl, rfl, hsame⟩ := h.exists_obj
      have hid' : (Json.obj members').idText?.isSome := by
        simpa only [Json.idText?, Json.get?, hsame] using hid
      rw [ofJson?, ofJson?, SectionBody.bodiesOf?_of_idText? hid,
        SectionBody.bodiesOf?_of_idText? hid']
  | item before after h =>
      rw [ofJson?, ofJson?,
        FieldDescriptor.readFields?_respelled before after (FieldDescriptor.ofJson_respelled h)]
  | inside before key after hmap h =>
      rw [ofJson?, ofJson?,
        SectionBody.bodiesOf?_congr before key after (SectionBody.ofJson?_respelled h)]

/-- Two values that differ in the spelling of their fields only, in whatever places, are the same
schema: what is read from one is read from the other, and compiles to the same rules. -/
theorem spellings_reconcile {value value' : Json}
    (h : Relation.EqvGen SectionBody.Respelled value value') :
    ofJson? value = ofJson? value' ∧
      ∀ schema, LoadedSchema.ofSource value = .ok schema →
        ∃ schema', LoadedSchema.ofSource value' = .ok schema' ∧
          schema'.document = schema.document ∧ schema'.compiled = schema.compiled := by
  have hread : ofJson? value = ofJson? value' := by
    induction h with
    | rel _ _ hstep => exact ofJson?_respelled hstep
    | refl _ => rfl
    | symm _ _ _ ih => exact ih.symm
    | trans _ _ _ _ _ ih ih' => exact ih.trans ih'
  refine ⟨hread, fun schema hload => ?_⟩
  rw [LoadedSchema.ofSource] at hload ⊢
  rw [← hread]
  split at hload
  · cases hload
  · cases hload
    exact ⟨_, rfl, rfl, rfl⟩

/-- A page whose footer is a list with a choice and whose heading is a text. -/
def pageWith (footer heading : Json) : Json :=
  .obj [("footer", footer), ("meta", .arr [heading])]

def rowsWith (label : List (String × Json)) (field : Json) : Json :=
  .obj ([("fields", .arr [field]), ("id", .str "links")] ++ label ++ [("type", .str "list")])

/-- A page in old spellings: options as a bare list of scalars, and a kind under `kind`. -/
def oldPage : Json :=
  pageWith
    (rowsWith [] (.obj [("id", .str "open"), ("kind", .str "select"),
      ("options", .arr [.num (.int 1), .bool true])]))
    (.obj [("id", .str "title")])

def newPage : Json :=
  pageWith
    (rowsWith [("label", .null)] (.obj [("id", .str "open"),
      ("options", .obj [("multiple", .bool false), ("values", .arr
        [.obj [("label", .str "1"), ("value", .num (.int 1))], .str "true"])]),
      ("type", .str "select")]))
    (.obj [("id", .str "title"), ("label", .str "title"), ("type", .null)])

/-- Eight steps lead from one to the other, the first of them against its direction. -/
theorem respelled_oldPage : Relation.EqvGen SectionBody.Respelled oldPage newPage := by
  have hfooter {footer footer' heading : Json} (hid : footer.idText?.isSome)
      (h : FieldDescriptor.Respelled footer footer') :
      Relation.EqvGen SectionBody.Respelled (pageWith footer heading) (pageWith footer' heading) :=
    .rel _ _ (.inside [] "footer" [("meta", .arr [heading])] rfl (.field hid h))
  have hmeta {footer heading heading' : Json} (h : FieldDescriptor.Respelled heading heading') :
      Relation.EqvGen SectionBody.Respelled (pageWith footer heading) (pageWith footer heading') :=
    .rel _ _ (.inside [("footer", footer)] "meta" [] rfl (.item [] [] h))
  let choice (options : Json) : Json :=
    .obj [("id", .str "open"), ("options", options), ("type", .str "select")]
  have hoptions {raw raw' heading : Json} (h : OptionSet.Respelled raw raw') :
      Relation.EqvGen SectionBody.Respelled (pageWith (rowsWith [] (choice raw)) heading)
        (pageWith (rowsWith [] (choice raw')) heading) :=
    hfooter rfl (.nested [] [] rfl (.options rfl h))
  let first : Json := .obj [("label", .str "1"), ("value", .num (.int 1))]
  have hkind : Relation.EqvGen SectionBody.Respelled
      (pageWith (rowsWith [] (choice (.arr [.num (.int 1), .bool true])))
        (.obj [("id", .str "title")])) oldPage := hfooter rfl (.nested [] [] rfl (.kind rfl rfl))
  refine .trans _ _ _ (.symm _ _ hkind) ?_
  refine .trans _ _ _ (hoptions (.item [] [.bool true] (.labelled rfl))) ?_
  refine .trans _ _ _ (hoptions (.item [first] [] (.text rfl))) ?_
  refine .trans _ _ _ (hoptions (.bare _)) (.trans _ _ _ (hoptions (.single rfl)) ?_)
  refine .trans _ _ _ (hfooter rfl (.null List.mem_cons_self rfl)) ?_
  exact .trans _ _ _ (hmeta (.label rfl rfl)) (hmeta (.noKind rfl rfl))

/-- Both pages are read, as one document. -/
theorem spellings_reconcile_pages :
    Relation.EqvGen SectionBody.Respelled oldPage newPage ∧
      ∃ schema, ofJson? oldPage = some schema ∧ ofJson? newPage = some schema ∧
        schema = .sectioned
          [("footer", .oneField ⟨"links", "links", .list, [⟨"open", "open", .select, [],
              ⟨[.plain "1", .plain "true"], false⟩, []⟩], .empty, []⟩),
            ("meta", .fieldList [⟨"title", "title", .other "", [], .empty, []⟩])] := by
  have hread := (spellings_reconcile respelled_oldPage).1
  exact ⟨respelled_oldPage, _, rfl, hread.symm.trans rfl, rfl⟩

end SchemaDocument

end ContentForms

import ContentForms.Proofs.Locations
import ContentForms.Proofs.Undeclared

/-!
Taking one member out of a document that is accepted. Whether the rest is still accepted depends on
the rule of that member alone, and at whatever depth it stands: an edit under one key of an object
changes the outcome for that key and no other, so the outcome for the object changes just there, and
the same holds for the item of a list. `ChangedBy` says it for a whole document, and is kept from an
object or list to the one around it. What is left is what each form of rule makes of a value that is
missing.
-/

namespace ContentForms

open Validation

/-- Where one element of a list alone gives something, that is all that the list gives. -/
theorem flatMap_eq_of_mem {α : Type u} {β : Type v} {xs : List α} {f : α → List β} {x : α}
    (hnodup : xs.Nodup) (hx : x ∈ xs) (hothers : ∀ y ∈ xs, y ≠ x → f y = []) :
    xs.flatMap f = f x := by
  induction xs with
  | nil => cases hx
  | cons y rest ih =>
      obtain ⟨hnew, hrest⟩ := List.nodup_cons.mp hnodup
      rw [List.flatMap_cons]
      rcases List.mem_cons.mp hx with rfl | hmem
      · have hnone : rest.flatMap f = [] := List.flatMap_eq_nil_iff.mpr fun z hz =>
          hothers z (List.mem_cons_of_mem _ hz) fun heq => hnew (heq ▸ hz)
        rw [hnone, List.append_nil]
      · rw [hothers y List.mem_cons_self fun heq => hnew (heq ▸ hmem), List.nil_append]
        exact ih hrest hmem fun z hz => hothers z (List.mem_cons_of_mem _ hz)

/-! ### A value that is missing -/

def Rule.missingFault : Rule → Fault
  | .choice _ _ true _ => .noneChosen
  | _ => .missing

/-- What is stored in place of a missing value that is not required. -/
def Rule.leftFor (gone : Option Json) : Rule → Option Json
  | .list _ _ => some (.arr [])
  | _ => gone

namespace Validation

theorem check_of_missing (rule : Rule) {gone : Option Json} (hgone : isMissing gone) :
    check rule gone =
      if rule.isRequired then .fault rule.label rule.missingFault none
      else .good (rule.leftFor gone) := by
  cases rule with
  | text label format required | number label =>
      rw [check]
      exact if_pos hgone
  | choice label allowed multiple required =>
      rw [check]
      cases multiple with
      | true => exact if_pos hgone
      | false => exact if_pos hgone
  | record label members required =>
      rw [check_record]
      exact if_pos hgone
  | list label element => exact check_list_of_missing label element hgone
  | media label members required minimal =>
      rw [check_media]
      exact if_pos hgone

/-! ### The object after its check -/

theorem store_eq_set (members : List (String × Json)) (outcome : String × Checked) :
    store members outcome = Assoc.set outcome.1 outcome.2.value members := by
  unfold store Assoc.set
  split <;> simp_all

theorem ascending_checkedMembers {members : List (String × Rule)} {values : List (String × Json)}
    (h : Assoc.Ascending values) : Assoc.Ascending (checkedMembers members values) := by
  refine List.foldlRecOn (motive := Assoc.Ascending) _ store h fun stored hstored outcome _ => ?_
  rw [store_eq_set]
  exact hstored.set _ _

/-! ### One key of an object, one item of a list -/

section Object

variable {rule member : Rule} {key : String} {values values' stored : List (String × Json)}

theorem issues_of_change (hrule : rule.WellFormed) (declared : (key, member) ∈ rule.members)
    (hothers : ∀ other, other ≠ key → Assoc.get? other values' = Assoc.get? other values)
    (hgood : (check rule (some (.obj values))).issues = []) :
    (check rule (some (.obj values'))).issues =
      (check member (Assoc.get? key values')).issues.map (Issue.under (.key key)) := by
  have hobject := Rule.isObject_of_mem declared
  rw [check_of_isObject hobject, checkObject_obj] at hgood ⊢
  rw [closeRecord_issues_eq_nil_iff] at hgood
  rw [closeRecord_issues]
  refine flatMap_eq_of_mem (Assoc.nodup_of_nodup_keys hrule.nodup_members) declared ?_
  rintro ⟨id, inner⟩ hmem hne
  have hid : id ≠ key := by
    rintro rfl
    refine hne (Prod.ext rfl ?_)
    exact Option.some.inj (((Assoc.get?_eq_some_iff hrule.nodup_members).mpr hmem).symm.trans
      ((Assoc.get?_eq_some_iff hrule.nodup_members).mpr declared))
  rw [hothers id hid, hgood id inner hmem, List.map_nil]

theorem value_of_object (hobject : rule.IsObject) :
    (check rule (some (.obj values))).value =
      some (.obj (checkedMembers rule.members values)) := by
  rw [check_of_isObject hobject, checkObject_obj, closeRecord_value]

theorem value_of_change (hrule : rule.WellFormed) (declared : (key, member) ∈ rule.members)
    (hothers : ∀ other, other ≠ key → Assoc.get? other values' = Assoc.get? other values)
    (hvalues : Assoc.Ascending values') (hstored : Assoc.Ascending stored)
    (hself : Assoc.get? key stored = (check member (Assoc.get? key values')).value)
    (hkept : ∀ other, other ≠ key →
      Assoc.get? other stored = Assoc.get? other (checkedMembers rule.members values)) :
    (check rule (some (.obj values'))).value = some (.obj stored) := by
  rw [value_of_object (Rule.isObject_of_mem declared)]
  refine congrArg (fun members => some (Json.obj members)) ?_
  refine (ascending_checkedMembers hvalues).ext hstored fun other => ?_
  rw [get?_checkedMembers hrule.nodup_members]
  by_cases hother : other = key
  · subst hother
    rw [(Assoc.get?_eq_some_iff hrule.nodup_members).mpr declared, hself]
  · rw [hothers other hother, hkept other hother, get?_checkedMembers hrule.nodup_members]

end Object

section Items

variable {label : String} {element : Rule} {items : List Json} {i : Nat} {item : Json}
  {f : Json → Json}

theorem issues_of_change_item (there : items[i]? = some item)
    (hgood : (check (.list label (some element)) (some (.arr items))).issues = []) :
    (check (.list label (some element)) (some (.arr (items.modify i f)))).issues =
      (check element (some (f item))).issues.map (Issue.under (.index i)) := by
  have hnodup : (items.modify i f).zipIdx.Nodup := by
    refine List.Nodup.of_map Prod.snd ?_
    rw [List.zipIdx_map_snd]
    exact List.nodup_range'
  have hmem : (f item, i) ∈ (items.modify i f).zipIdx := by
    rw [List.mem_zipIdx_iff_getElem?, List.getElem?_modify_eq, there]
    rfl
  rw [check_items_arr, closeList_issues, flatMap_eq_of_mem hnodup hmem]
  rintro ⟨other, j⟩ hother hne
  rw [List.mem_zipIdx_iff_getElem?] at hother hmem
  have hj : i ≠ j := by
    rintro rfl
    exact hne (Prod.ext (Option.some.inj (hother.symm.trans hmem)) rfl)
  rw [List.getElem?_modify_ne _ _ hj] at hother
  rw [check_items_arr, closeList_issues_eq_nil_iff] at hgood
  have hitem : (check element (some other)).issues = [] :=
    hgood _ (List.mem_map_of_mem (List.mem_of_getElem? hother))
  show (check element (some other)).issues.map _ = []
  rw [hitem, List.map_nil]

theorem value_of_change_item (there : items[i]? = some item) {g : Json → Json}
    (hvalue : (check element (some (f item))).value.getD (f item) =
      g ((check element (some item)).value.getD item)) :
    (check (.list label (some element)) (some (.arr (items.modify i f)))).value =
      some (.arr
        ((items.map fun item => (check element (some item)).value.getD item).modify i g)) := by
  rw [check_items_arr, closeList_value]
  refine congrArg (fun items => some (Json.arr items)) (List.ext_getElem? fun j => ?_)
  by_cases hj : i = j
  · subst hj
    rw [List.getElem?_map, List.getElem?_modify_eq, List.getElem?_modify_eq, List.getElem?_map,
      there]
    exact congrArg some hvalue
  · rw [List.getElem?_map, List.getElem?_modify_ne _ _ hj, List.getElem?_modify_ne _ _ hj,
      List.getElem?_map]

end Items

/-! ### A change somewhere in a document -/

/-- What a check gives after a member was changed, by what it gave before and what it gives for the
member: the issues are those of the member, and of what is stored only the member differs. -/
structure ChangedBy (outer : Location) (key : String) (inner before after : Checked) : Prop where
  issues : after.issues =
    inner.issues.map fun issue => ⟨outer.child key ++ issue.location, issue.message⟩
  value : after.value = before.value.map (Json.setMember key inner.value outer)
  there : after.value.bind (Json.valueAt? (outer.child key)) = inner.value

theorem exists_of_reaches_child {rule member : Rule} {input old : Option Json} {outer : Location}
    {key : String} (h : rule.Reaches input (outer.child key) member old) :
    ∃ value, input = some value := by
  unfold Location.child at h
  cases outer <;> cases h <;> exact ⟨_, rfl⟩

section Steps

variable {rule member : Rule} {outer : Location} {key id : String} {new : Option Json}
  {values : List (String × Json)}

theorem changedBy_here (hrule : rule.WellFormed) (hordered : (Json.obj values).Ordered)
    (declared : (key, member) ∈ rule.members)
    (hgood : (check rule (some (.obj values))).issues = []) :
    ChangedBy .root key (check member new) (check rule (some (.obj values)))
      (check rule (some ((Json.obj values).setMember key new .root))) := by
  change ChangedBy .root key _ _ (check rule (some (.obj (Assoc.set key new values))))
  have hothers (other : String) (hne : other ≠ key) :
      Assoc.get? other (Assoc.set key new values) = Assoc.get? other values :=
    Assoc.get?_set_of_ne hne new values
  have hissues : (check rule (some (.obj (Assoc.set key new values)))).issues =
      (check member new).issues.map (Issue.under (.key key)) := by
    rw [issues_of_change hrule declared hothers hgood, Assoc.get?_set_self]
  have hvalue : (check rule (some (.obj (Assoc.set key new values)))).value =
      some (.obj (Assoc.set key (check member new).value
        (checkedMembers rule.members values))) := by
    refine value_of_change hrule declared hothers (hordered.ascending.set key new)
      ((ascending_checkedMembers hordered.ascending).set key _) ?_ fun other hne => ?_
    · rw [Assoc.get?_set_self, Assoc.get?_set_self]
    · exact Assoc.get?_set_of_ne hne _ _
  refine ⟨hissues, ?_, ?_⟩
  · rw [hvalue, value_of_object (Rule.isObject_of_mem declared)]
    rfl
  · rw [hvalue]
    show (Assoc.get? key (Assoc.set key _ _)).bind some = _
    rw [Assoc.get?_set_self, Option.bind_fun_some]

variable {inner : Checked} {found : Json}

theorem changedBy_member (hrule : rule.WellFormed) (hordered : (Json.obj values).Ordered)
    (declared : (id, member) ∈ rule.members)
    (hgood : (check rule (some (.obj values))).issues = [])
    (hfound : Assoc.get? id values = some found)
    (h : ChangedBy outer key inner (check member (some found))
      (check member (some (found.setMember key new outer)))) :
    ChangedBy (.key id :: outer) key inner (check rule (some (.obj values)))
      (check rule (some ((Json.obj values).setMember key new (.key id :: outer)))) := by
  change ChangedBy (.key id :: outer) key inner _
    (check rule (some (.obj (Assoc.modify id (Json.setMember key new outer) values))))
  have hget : Assoc.get? id (Assoc.modify id (Json.setMember key new outer) values) =
      some (found.setMember key new outer) := by
    rw [Assoc.get?_modify_self, hfound]
    rfl
  have hothers (other : String) (hne : other ≠ id) :
      Assoc.get? other (Assoc.modify id (Json.setMember key new outer) values) =
        Assoc.get? other values :=
    Assoc.get?_modify_of_ne hne _ _
  have hself : Assoc.get? id (Assoc.modify id (Json.setMember key inner.value outer)
        (checkedMembers rule.members values)) =
      (check member (some (found.setMember key new outer))).value := by
    rw [Assoc.get?_modify_self, get?_checkedMembers hrule.nodup_members,
      (Assoc.get?_eq_some_iff hrule.nodup_members).mpr declared, hfound, h.value]
  have hvalue : (check rule
        (some (.obj (Assoc.modify id (Json.setMember key new outer) values)))).value =
      some (.obj (Assoc.modify id (Json.setMember key inner.value outer)
        (checkedMembers rule.members values))) := by
    refine value_of_change hrule declared hothers (hordered.ascending.modify id _)
      ((ascending_checkedMembers hordered.ascending).modify id _) ?_ fun other hne => ?_
    · rw [hget, hself]
    · exact Assoc.get?_modify_of_ne hne _ _
  refine ⟨?_, ?_, ?_⟩
  · rw [issues_of_change hrule declared hothers hgood, hget, h.issues, List.map_map]
    rfl
  · rw [hvalue, value_of_object (Rule.isObject_of_mem declared)]
    rfl
  · rw [hvalue]
    show (Assoc.get? id (Assoc.modify id _ _)).bind _ = _
    rw [hself]
    exact h.there

theorem changedBy_item {label : String} {items : List Json} {i : Nat}
    (hrecord : (check member (some found)).value.isSome)
    (hgood : (check (.list label (some member)) (some (.arr items))).issues = [])
    (there : items[i]? = some found)
    (h : ChangedBy outer key inner (check member (some found))
      (check member (some (found.setMember key new outer)))) :
    ChangedBy (.index i :: outer) key inner (check (.list label (some member)) (some (.arr items)))
      (check (.list label (some member))
        (some ((Json.arr items).setMember key new (.index i :: outer)))) := by
  change ChangedBy (.index i :: outer) key inner _ (check (.list label (some member))
    (some (.arr (items.modify i (Json.setMember key new outer)))))
  obtain ⟨stored, hstored⟩ := Option.isSome_iff_exists.mp hrecord
  have hchanged : (check member (some (found.setMember key new outer))).value =
      some (stored.setMember key inner.value outer) := by
    rw [h.value, hstored]
    rfl
  have hvalue : (check (.list label (some member))
        (some (.arr (items.modify i (Json.setMember key new outer))))).value =
      some (.arr ((items.map fun item => (check member (some item)).value.getD item).modify i
        (Json.setMember key inner.value outer))) := by
    refine value_of_change_item there ?_
    rw [hchanged, hstored, Option.getD_some, Option.getD_some]
  refine ⟨?_, ?_, ?_⟩
  · rw [issues_of_change_item there hgood, h.issues, List.map_map]
    rfl
  · rw [hvalue, check_items_arr, closeList_value]
    rfl
  · rw [hvalue]
    show (List.modify _ i _)[i]?.bind _ = _
    have hthere := h.there
    rw [hchanged] at hthere
    rw [List.getElem?_modify_eq, List.getElem?_map, there, Option.map_some, hstored,
      Option.getD_some]
    exact hthere

end Steps

/-- An edit of a declared member, wherever it stands in a value without issues, changes nothing else
about the outcome. -/
theorem changedBy_check {rule member : Rule} (hrule : rule.WellFormed) {document : Json}
    (hordered : document.Ordered) (hgood : (check rule (some document)).issues = [])
    {outer : Location} {key : String} {old : Option Json}
    (hplace : rule.Reaches (some document) (outer.child key) member old) (new : Option Json) :
    ChangedBy outer key (check member new) (check rule (some document))
      (check rule (some (document.setMember key new outer))) := by
  induction outer generalizing rule document with
  | nil =>
      change rule.Reaches (some document) [.key key] member old at hplace
      cases hplace with
      | @member _ _ inner declared values _ _ _ rest =>
          have hinner : inner = member := by
            generalize Assoc.get? key values = found at rest
            cases rest
            rfl
          subst hinner
          exact changedBy_here hrule hordered declared hgood
  | cons step outer ih =>
      change rule.Reaches (some document) (step :: Location.child outer key) member old at hplace
      cases hplace with
      | @member _ id inner declared values _ _ _ rest =>
          obtain ⟨found, hfound⟩ := exists_of_reaches_child rest
          rw [hfound] at rest
          have hinner : (check inner (some found)).issues = [] := by
            rw [check_of_isObject (Rule.isObject_of_mem declared), checkObject_obj,
              closeRecord_issues_eq_nil_iff] at hgood
            exact hfound ▸ hgood id inner declared
          exact changedBy_member hrule hordered declared hgood hfound
            (ih (hrule.member declared) (hordered.get? id found hfound) hinner rest)
      | @item label element items i item there _ _ _ rest =>
          cases hrule with
          | @items _ itemLabel members hrecord =>
              have hmem := List.mem_of_getElem? there
              have hitem : (check (.record itemLabel members true) (some item)).issues = [] := by
                have heach := hgood
                rw [check_items_arr, closeList_issues_eq_nil_iff] at heach
                exact heach _ (List.mem_map_of_mem hmem)
              obtain ⟨-, stored, -, hstored⟩ := check_of_required hitem
              exact changedBy_item (Option.isSome_iff_exists.mpr ⟨stored, hstored⟩) hgood there
                (ih hrecord (hordered.of_mem hmem) hitem rest)

end Validation

theorem Json.isObject_setMember (key : String) (new : Option Json) (outer : Location)
    (value : Json) : (value.setMember key new outer).isObject = value.isObject := by
  unfold Json.setMember
  split <;> rfl

namespace SchemaDocument

/-- A declared member of an accepted document is taken out, or made null, wherever it stands. If it
is not required then the document is still accepted, and what is stored differs from what was stored
under that key only: there is nothing, or null, or an empty list for a list. If it is required then
the document is rejected with one issue, at that place. -/
theorem removal_judged_by_isRequired {schema : SchemaDocument} (hkeyed : schema.Keyed)
    {document value : Json} (hordered : document.Ordered)
    (haccepted : schema.compile.validate document = .accepted value) {outer : Location}
    {key : String} {member : Rule} {old : Option Json}
    (hplace : schema.compile.root.Reaches (some document) (outer.child key) member old)
    {gone : Option Json} (hgone : isMissing gone) :
    (member.isRequired = false →
      let value' := value.setMember key (member.leftFor gone) outer
      schema.compile.validate (document.setMember key gone outer) = .accepted value' ∧
        value'.valueAt? (outer.child key) = member.leftFor gone ∧
        ∀ other, ¬outer.child key <+: other → ¬other <+: outer.child key →
          value'.valueAt? other = value.valueAt? other) ∧
      (member.isRequired = true →
        schema.compile.validate (document.setMember key gone outer) =
          .rejected [⟨outer.child key, member.missingFault.message member.label⟩]) := by
  have hrule := wellFormed_root hkeyed
  obtain ⟨hissues, hvalue⟩ := CompiledSchema.check_root_of_accepted haccepted
  have hchanged := changedBy_check hrule hordered hissues hplace gone
  have hobject : document.isObject := by
    obtain ⟨values, rfl, -, -⟩ := CompiledSchema.validate_eq_accepted_iff.mp haccepted
    rfl
  have hvalidate : schema.compile.validate (document.setMember key gone outer) =
      .ofChecked (check schema.compile.root (some (document.setMember key gone outer))) := by
    rw [CompiledSchema.validate, if_pos (by rwa [Json.isObject_setMember])]
  constructor
  · intro hoptional value'
    have hinner : check member gone = .good (member.leftFor gone) := by
      rw [check_of_missing member hgone, hoptional]
      rfl
    rw [hinner] at hchanged
    have hstored := hchanged.value
    rw [hvalue] at hstored
    refine ⟨?_, ?_, fun other hbelow habove => ?_⟩
    · rw [hvalidate, ofChecked_eq_accepted_iff, hstored]
      exact ⟨hchanged.issues, rfl⟩
    · have hthere := hchanged.there
      rwa [hstored] at hthere
    · exact Json.valueAt?_setMember_of_apart hbelow habove value
  · intro hrequired
    have hinner : check member gone = .fault member.label member.missingFault none := by
      rw [check_of_missing member hgone, hrequired]
      rfl
    have hone := hchanged.issues
    rw [hinner] at hone
    rw [hvalidate, ofChecked, hone]
    simp [Issue.here, Location.root]

theorem ordered_kiloPrice : kiloPrice.Ordered := by
  have hread : Json.read?
      ("\x7b\"legacy\":null,\"prices\":[\x7b\"amount\":\" 12 \",\"tags\":[\"fruta\"]," ++
        "\"unit\":\"kg\"\x7d],\"seo\":\x7b\"title\":\"Hola\"\x7d\x7d") = some kiloPrice := by
    decide +kernel
  exact Json.ordered_of_read? hread

def firstPrice : Location := [.key "prices", .index 0]

/-- Without its tags, which are a list, the price is accepted, but not with null for its amount. -/
theorem removal_judged_by_isRequired_prices :
    let stored (tags : List Json) : Json := .obj [("legacy", .null),
      ("prices", .arr [.obj [("amount", .num (.int 12)), ("tags", .arr tags),
        ("unit", .str "kg")]]),
      ("seo", .obj [("title", .str "Hola")])]
    priceSchema.Keyed ∧ kiloPrice.Ordered ∧
      priceSchema.compile.validate kiloPrice = .accepted (stored [.str "fruta"]) ∧
      priceSchema.compile.root.Reaches (some kiloPrice) (firstPrice.child "tags")
        (.list "Etiquetas" none) (some (.arr [.str "fruta"])) ∧
      priceSchema.compile.root.Reaches (some kiloPrice) (firstPrice.child "amount")
        (.number "Importe") (some (.str " 12 ")) ∧
      priceSchema.compile.validate (kiloPrice.setMember "tags" none firstPrice) =
        .accepted (stored []) ∧
      priceSchema.compile.validate (kiloPrice.setMember "amount" (some .null) firstPrice) =
        .rejected [⟨firstPrice.child "amount", "Importe es requerido"⟩] := by
  intro stored
  have haccepted : priceSchema.compile.validate kiloPrice = .accepted (stored [.str "fruta"]) := by
    decide +kernel
  have htags : priceSchema.compile.root.Reaches (some kiloPrice) (firstPrice.child "tags")
      (.list "Etiquetas" none) (some (.arr [.str "fruta"])) :=
    .member List.mem_cons_self
      (.item "Precios" rfl (.member (List.mem_cons_of_mem _ List.mem_cons_self) (.here _ _)))
  have hamount : priceSchema.compile.root.Reaches (some kiloPrice) (firstPrice.child "amount")
      (.number "Importe") (some (.str " 12 ")) :=
    .member List.mem_cons_self (.item "Precios" rfl (.member List.mem_cons_self (.here _ _)))
  have hnothing : isMissing none := rfl
  have hnull : isMissing (some .null) := rfl
  refine ⟨keyed_priceSchema, ordered_kiloPrice, haccepted, htags, hamount, ?_, ?_⟩
  · exact ((removal_judged_by_isRequired keyed_priceSchema ordered_kiloPrice haccepted htags
      hnothing).1 rfl).1
  · exact (removal_judged_by_isRequired keyed_priceSchema ordered_kiloPrice haccepted hamount
      hnull).2 rfl

end SchemaDocument

end ContentForms

import ContentForms.Proofs.Numerals
import ContentForms.Proofs.Options
import ContentForms.Proofs.Readable

/-!
Descriptors in their one form. Reading forgives much, and what it makes of a value has lost the
traces: a kind is the one that its name stands for, no option is allowed twice, and the members
without a meaning are in key order and have no key that has one. A descriptor of this form is
written and read without a change. The members may be written in any order, since reading looks
them up by their keys: what has to be shown is what is found under each of the six keys with a
meaning, and that under every other key the members carried along are found.
-/

namespace ContentForms

/-! ### Kinds -/

namespace FieldKind

def knownNames : List String :=
  ["string", "text", "richtext", "number", "url", "image", "select", "object", "list", "media"]

theorem ofName_of_not_mem {name : String} (h : name ∉ knownNames) : ofName name = other name := by
  unfold ofName
  split
  case h_11 => rfl
  all_goals exact absurd (by decide) h

theorem ofName_of_head {name : String} {c : Char} {rest : List Char}
    (hname : name.toList = c :: rest) (hc : ∀ known ∈ knownNames, known.toList.head? ≠ some c) :
    ofName name = other name := by
  apply ofName_of_not_mem
  intro hmem
  exact hc name hmem (by rw [hname, List.head?_cons])

theorem head?_ne_of_isDigit {c : Char} (h : c.isDigit) :
    ∀ known ∈ knownNames, known.toList.head? ≠ some c := by
  have hdigits : ∀ known ∈ knownNames, known.toList.head?.any Char.isDigit = false := by decide
  intro known hmem hhead
  have hknown := hdigits known hmem
  rw [hhead, Option.any_some, h] at hknown
  cases hknown

/-- A number, list or object is written with a first character that no known kind starts with, and
no known kind is called after a truth value. -/
theorem ofName_compact {value : Json} (hstr : value.text? = none) (hnull : value ≠ .null) :
    ofName value.compact = other value.compact := by
  have hchars : value.compact.toList = value.compactChars := String.toList_ofList
  cases value with
  | null => exact absurd rfl hnull
  | bool b => cases b <;> rfl
  | num n =>
      obtain ⟨negative, c, rest, hrender, hdigit, -⟩ := n.render_eq
      rw [Json.compactChars, hrender] at hchars
      cases negative with
      | true => exact ofName_of_head hchars (by decide)
      | false => exact ofName_of_head hchars (head?_ne_of_isDigit hdigit)
  | str text => cases hstr
  | arr items => cases items <;> exact ofName_of_head hchars (by decide)
  | obj members =>
      cases members with
      | nil => exact ofName_of_head hchars (by decide)
      | cons member rest => exact ofName_of_head hchars (by decide)

theorem ofName_name_kindOf (stored : Option Json) :
    ofName (FieldDescriptor.kindOf stored).name = FieldDescriptor.kindOf stored := by
  unfold FieldDescriptor.kindOf
  split
  · rw [name_ofName]
  · rfl
  · rfl
  · next value hstr hnull =>
      apply ofName_compact
      · cases value with
        | str name => exact absurd rfl (hstr name)
        | _ => rfl
      · exact hnull

end FieldKind

/-! ### Descriptors -/

namespace FieldDescriptor

/-- The one form of a descriptor, at every depth. -/
inductive Canonical : FieldDescriptor → Prop
  | mk {field : FieldDescriptor} (named : FieldKind.ofName field.kind.name = field.kind)
      (distinct : field.options.allowed.Nodup) (ascending : Assoc.Ascending field.extra)
      (unknown : ∀ key ∈ Assoc.keys field.extra, key ∉ knownKeys)
      (nested : ∀ inner ∈ field.fields, Canonical inner) : Canonical field

namespace Canonical

variable {field inner : FieldDescriptor}

theorem named (h : field.Canonical) : FieldKind.ofName field.kind.name = field.kind := by
  cases h with
  | mk named _ _ _ _ => exact named

theorem distinct (h : field.Canonical) : field.options.allowed.Nodup := by
  cases h with
  | mk _ distinct _ _ _ => exact distinct

theorem ascending (h : field.Canonical) : Assoc.Ascending field.extra := by
  cases h with
  | mk _ _ ascending _ _ => exact ascending

theorem get?_extra (h : field.Canonical) {key : String} (hkey : key ∈ knownKeys) :
    Assoc.get? key field.extra = none := by
  cases h with
  | mk _ _ _ unknown _ => exact Assoc.get?_eq_none_iff.mpr fun hmem => unknown key hmem hkey

theorem nested (h : field.Canonical) (hmem : inner ∈ field.fields) : inner.Canonical := by
  cases h with
  | mk _ _ _ _ nested => exact nested inner hmem

end Canonical

/-- Whatever the members are, a descriptor with canonical nested fields is canonical. -/
theorem canonical_build (id : String) (members : List (String × Json))
    {fields : List FieldDescriptor} (h : ∀ field ∈ fields, field.Canonical) :
    (build id fields members).Canonical := by
  apply Canonical.mk
  case named => exact FieldKind.ofName_name_kindOf _
  case distinct =>
    show (((Assoc.get? "options" members).map OptionSet.ofJson).getD .empty).allowed.Nodup
    cases Assoc.get? "options" members with
    | none => exact List.nodup_nil
    | some raw => exact OptionSet.nodup_allowed_ofJson raw
  case ascending => exact Assoc.ascending_ofList _
  case unknown =>
    intro key hkey
    obtain ⟨⟨_, value⟩, hmem, rfl⟩ := List.mem_map.mp hkey
    have hfilter := Assoc.mem_of_mem_ofList hmem
    simpa using (List.mem_filter.mp hfilter).2
  case nested => exact h

mutual
theorem canonical_of_ofJson (value : Json) {field : FieldDescriptor}
    (h : ofJson value = .ok field) : field.Canonical := by
  match value with
  | .null | .bool _ | .num _ | .str _ | .arr _ => simp [ofJson] at h
  | .obj members =>
      obtain ⟨id, -, rfl⟩ := ofJson_obj_eq_ok_iff.mp h
      exact canonical_build id members (canonical_of_nestedOf members)

theorem canonical_of_nestedOf (members : List (String × Json)) :
    ∀ field ∈ nestedOf members, field.Canonical := by
  match members with
  | [] => simp [nestedOf]
  | (key, value) :: rest =>
      rw [nestedOf]
      split
      · exact canonical_of_itemsOf value
      · exact canonical_of_nestedOf rest

theorem canonical_of_itemsOf (value : Json) : ∀ field ∈ itemsOf value, field.Canonical := by
  match value with
  | .null | .bool _ | .num _ | .str _ | .obj _ => simp [itemsOf]
  | .arr items =>
      rw [itemsOf]
      exact canonical_of_keepReadable items

theorem canonical_of_keepReadable (items : List Json) :
    ∀ field ∈ keepReadable items, field.Canonical := by
  match items with
  | [] => simp [keepReadable]
  | item :: rest =>
      rw [keepReadable]
      split
      · next field hread =>
          exact List.forall_mem_cons.mpr
            ⟨canonical_of_ofJson item hread, canonical_of_keepReadable rest⟩
      · exact canonical_of_keepReadable rest
end

/-! ### What is written -/

/-- The members with a meaning, as they are written. -/
def meaning (field : FieldDescriptor) : List (String × Json) :=
  [("id", .str field.id), ("label", .str field.label), ("type", .str field.kind.name)] ++
    writtenFields field.fields ++ writtenOptions field.options

variable {field : FieldDescriptor}

theorem written_eq (field : FieldDescriptor) : field.written = field.meaning ++ field.extra := by
  obtain ⟨id, label, kind, fields, options, extra⟩ := field
  rw [written]
  rfl

theorem writtenFields_eq (fields : List FieldDescriptor) :
    writtenFields fields =
      if fields.isEmpty then [] else [("fields", .arr (writtenItems fields))] := by
  cases fields with
  | nil => rw [writtenFields]; rfl
  | cons field rest => rw [writtenFields, writtenItems]; rfl

theorem keys_meaning (field : FieldDescriptor) :
    Assoc.keys field.meaning = ["id", "label", "type"] ++
      (if field.fields.isEmpty then [] else ["fields"]) ++
      if field.options.isEmpty && !field.options.multiple then [] else ["options"] := by
  rw [meaning, writtenFields_eq, writtenOptions, Assoc.keys, List.map_append, List.map_append,
    apply_ite (List.map Prod.fst), apply_ite (List.map Prod.fst)]
  rfl

theorem mem_knownKeys_of_mem_meaning {key : String} (h : key ∈ Assoc.keys field.meaning) :
    key ∈ knownKeys := by
  have hknown : ∀ b c : Bool, ∀ k ∈ ["id", "label", "type"] ++ (if b then [] else ["fields"]) ++
      (if c then [] else ["options"]), k ∈ knownKeys := by decide
  rw [keys_meaning] at h
  exact hknown _ _ key h

theorem nodup_keys_written (h : field.Canonical) : (Assoc.keys field.written).Nodup := by
  have hdistinct : ∀ b c : Bool, (["id", "label", "type"] ++ (if b then [] else ["fields"]) ++
      if c then [] else ["options"]).Nodup := by decide
  have hmeaning : (Assoc.keys field.meaning).Nodup := by
    rw [keys_meaning]
    exact hdistinct _ _
  rw [written_eq, Assoc.keys, List.map_append]
  apply List.Nodup.append hmeaning h.ascending.nodup_keys
  intro key hkey hextra
  have hnone := h.get?_extra (mem_knownKeys_of_mem_meaning hkey)
  exact Assoc.get?_eq_none_iff.mp hnone hextra

theorem get?_written_of_known (h : field.Canonical) {key : String} (hkey : key ∈ knownKeys) :
    Assoc.get? key field.written = Assoc.get? key field.meaning := by
  rw [written_eq, Assoc.get?_append, h.get?_extra hkey, Option.or_none]

theorem get?_written_of_unknown {key : String} (hkey : key ∉ knownKeys) :
    Assoc.get? key field.written = Assoc.get? key field.extra := by
  have hmeaning : Assoc.get? key field.meaning = none :=
    Assoc.get?_eq_none_iff.mpr fun hmem => hkey (mem_knownKeys_of_mem_meaning hmem)
  rw [written_eq, Assoc.get?_append, hmeaning, Option.none_or]

theorem get?_kind_meaning (field : FieldDescriptor) :
    Assoc.get? "kind" field.meaning = none := by
  rw [Assoc.get?_eq_none_iff, keys_meaning]
  generalize field.fields.isEmpty = b
  generalize (field.options.isEmpty && !field.options.multiple) = c
  revert b c
  decide

theorem get?_fields_meaning (field : FieldDescriptor) :
    Assoc.get? "fields" field.meaning =
      if field.fields.isEmpty then none else some (.arr (writtenItems field.fields)) := by
  rw [meaning, writtenFields_eq, writtenOptions]
  cases field.fields.isEmpty with
  | false => rfl
  | true => cases field.options.isEmpty && !field.options.multiple <;> rfl

theorem get?_options_meaning (field : FieldDescriptor) :
    Assoc.get? "options" field.meaning =
      if field.options.isEmpty && !field.options.multiple then none
      else some field.options.toJson := by
  rw [meaning, writtenFields_eq, writtenOptions]
  cases field.fields.isEmpty <;> cases field.options.isEmpty && !field.options.multiple <;> rfl

/-! ### Reading back -/

section

variable {members : List (String × Json)} (h : field.Canonical)
  (hperm : members.Perm field.written)

include h hperm

theorem nodup_keys_of_perm : (Assoc.keys members).Nodup :=
  (hperm.map Prod.fst).nodup_iff.mpr (nodup_keys_written h)

theorem get?_eq_written (key : String) :
    Assoc.get? key members = Assoc.get? key field.written :=
  (Assoc.perm_iff_get? (nodup_keys_of_perm h hperm) (nodup_keys_written h)).mp hperm key

theorem get?_of_known {key : String} (hkey : key ∈ knownKeys) :
    Assoc.get? key members = Assoc.get? key field.meaning := by
  rw [get?_eq_written h hperm, get?_written_of_known h hkey]

theorem nestedOf_of_perm (hnested : keepReadable (writtenItems field.fields) = field.fields) :
    nestedOf members = field.fields := by
  rw [nestedOf_eq, get?_of_known h hperm (by decide), get?_fields_meaning]
  cases hempty : field.fields.isEmpty with
  | true => exact (List.isEmpty_iff.mp hempty).symm
  | false => exact hnested

theorem options_of_perm :
    ((Assoc.get? "options" members).map OptionSet.ofJson).getD .empty = field.options := by
  rw [get?_of_known h hperm (by decide), get?_options_meaning]
  cases hleft : field.options.isEmpty && !field.options.multiple with
  | true =>
      rw [Bool.and_eq_true, Bool.not_eq_true'] at hleft
      exact (OptionSet.eq_empty hleft.1 hleft.2).symm
  | false => exact OptionSet.ofJson_toJson h.distinct

theorem extra_of_perm :
    Assoc.ofList (members.filter fun member => !knownKeys.contains member.1) = field.extra := by
  apply (Assoc.ascending_ofList _).ext h.ascending
  intro key
  rw [Assoc.get?_ofList (Assoc.nodup_keys_filter (nodup_keys_of_perm h hperm) _),
    Assoc.get?_filter (fun key => !knownKeys.contains key), get?_eq_written h hperm]
  by_cases hkey : key ∈ knownKeys
  · simp [hkey, h.get?_extra hkey]
  · simp [hkey, get?_written_of_unknown hkey]

/-- A descriptor is read back from its members in any order, if its nested fields are. -/
theorem ofJson_of_perm (hnested : keepReadable (writtenItems field.fields) = field.fields) :
    ofJson (.obj members) = .ok field := by
  have hid : Assoc.get? "id" members = some (.str field.id) := get?_of_known h hperm (by decide)
  have hlabel : Assoc.get? "label" members = some (.str field.label) :=
    get?_of_known h hperm (by decide)
  have htype : Assoc.get? "type" members = some (.str field.kind.name) :=
    get?_of_known h hperm (by decide)
  have hkind : Assoc.get? "kind" members = none :=
    (get?_of_known h hperm (by decide)).trans (get?_kind_meaning field)
  have hread : idOf members = .ok field.id := by
    apply idOf_eq_ok_iff.mpr
    constructor
    · show (Assoc.get? "id" members).bind Json.text? = some field.id
      rw [hid]
      rfl
    · show ((Assoc.get? "kind" members).isSome && _) = false
      rw [hkind]
      rfl
  refine ofJson_obj_eq_ok_iff.mpr ⟨field.id, hread, ?_⟩
  -- All parts are back but the kind, of which only the name was written.
  rw [build, hlabel, htype, nestedOf_of_perm h hperm hnested, options_of_perm h hperm,
    extra_of_perm h hperm]
  obtain ⟨id, label, kind, fields, options, extra⟩ := field
  have hkindOf : FieldKind.ofName kind.name = kind := h.named
  show (⟨id, label, .ofName kind.name, fields, options, extra⟩ : FieldDescriptor) = _
  rw [hkindOf]

end

theorem keepReadable_writtenItems {fields : List FieldDescriptor}
    (h : ∀ field ∈ fields, ofJson (.object field.written) = .ok field) :
    keepReadable (writtenItems fields) = fields := by
  induction fields with
  | nil => simp [writtenItems, keepReadable]
  | cons field rest ih =>
      obtain ⟨hfield, hrest⟩ := List.forall_mem_cons.mp h
      rw [writtenItems, keepReadable, hfield, ih hrest]

theorem ofJson_object_written (h : field.Canonical) :
    ofJson (.object field.written) = .ok field := by
  induction h with
  | @mk field named distinct ascending unknown nested ih =>
      have h : field.Canonical := .mk named distinct ascending unknown nested
      exact ofJson_of_perm h (Assoc.perm_ofList (nodup_keys_written h))
        (keepReadable_writtenItems ih)

/-- A way to write descriptors: the members of each one in some order. -/
def Writes (write : FieldDescriptor → Json) : Prop :=
  ∀ field : FieldDescriptor, field.Canonical →
    ∃ members, write field = .obj members ∧ members.Perm field.written

theorem writes_toJson : Writes toJson :=
  fun field _ => ⟨field.written, rfl, .refl _⟩

theorem writes_object : Writes fun field => .object field.written :=
  fun field h => ⟨Assoc.ofList field.written, rfl, Assoc.perm_ofList (nodup_keys_written h)⟩

theorem ofJson_write {write : FieldDescriptor → Json} (hwrite : Writes write)
    (h : field.Canonical) : ofJson (write field) = .ok field := by
  obtain ⟨members, hmembers, hperm⟩ := hwrite field h
  rw [hmembers]
  exact ofJson_of_perm h hperm
    (keepReadable_writtenItems fun inner hmem => ofJson_object_written (h.nested hmem))

end FieldDescriptor

end ContentForms

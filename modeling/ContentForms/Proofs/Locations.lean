import ContentForms.Proofs.Normalization
import ContentForms.Proofs.Visits

/-!
Values at locations, and documents in which one member is changed. Where steps lead from a rule to a
rule below, the same steps lead from what is stored for the one to what is stored for the other:
objects keep their keys and lists their places. `Json.setMember` puts another value under one key of
an object somewhere in a document, or takes the key out, and leaves everything beside it alone.
-/

namespace ContentForms

def Json.valueAt? : Location → Json → Option Json
  | [], value => some value
  | .key key :: rest, .obj members => (Assoc.get? key members).bind (valueAt? rest)
  | .index i :: rest, .arr items => items[i]?.bind (valueAt? rest)
  | _ :: _, _ => none

theorem Rule.isObject_of_mem {rule member : Rule} {id : String} (h : (id, member) ∈ rule.members) :
    rule.IsObject := by
  cases rule with
  | record | media => trivial
  | _ => cases h

/-- What is stored at a place is what is stored for the rule there. -/
theorem Normalized.valueAt? {rule last : Rule} (hrule : rule.WellFormed)
    {input output input' : Option Json} (h : Normalized rule input output) {location : Location}
    (hreaches : rule.Reaches input location last input') :
    Normalized last input' (output.bind (Json.valueAt? location)) := by
  induction hreaches generalizing output with
  | here rule input =>
      cases output <;> exact h
  | @member rule id member declared values location last input' rest ih =>
      have hobject := Rule.isObject_of_mem declared
      cases h with
      | missingObject _ missing | missingList _ _ missing => cases missing
      | object _ hmembers =>
          exact ih (hrule.member declared)
            (hmembers id member ((Assoc.get?_eq_some_iff hrule.nodup_members).mpr declared))
      | text | choice => cases hobject
  | @item label element items i item there location last input' rest ih =>
      cases h with
      | missingObject _ missing | missingList _ _ missing => cases missing
      | @items _ _ _ stored _ length each =>
          obtain ⟨hi, -⟩ := List.getElem?_eq_some_iff.mp there
          have hstored : stored[i]? = some stored[i] := List.getElem?_eq_getElem (length ▸ hi)
          have hitem : element.WellFormed := by
            cases hrule with
            | items _ _ item => exact item
          have hvalue := ih hitem (each i item _ there hstored)
          show Normalized last input' (stored[i]?.bind _)
          rwa [hstored]

/-! ### Changing one member -/

namespace Assoc

variable {α : Type u}

/-- The entries with another value under a key, or without the key. -/
def set (key : String) (new : Option α) (entries : List (String × α)) : List (String × α) :=
  match new with
  | some value => insert key value entries
  | none => erase key entries

@[simp] theorem get?_set_self (key : String) (new : Option α) (entries : List (String × α)) :
    get? key (set key new entries) = new := by
  cases new with
  | none => exact get?_erase_self key entries
  | some value => exact get?_insert_self key value entries

theorem get?_set_of_ne {key other : String} (hne : other ≠ key) (new : Option α)
    (entries : List (String × α)) : get? other (set key new entries) = get? other entries := by
  cases new with
  | none => exact get?_erase_of_ne hne entries
  | some value => exact get?_insert_of_ne hne value entries

theorem Ascending.set {entries : List (String × α)} (h : Ascending entries) (key : String)
    (new : Option α) : Ascending (set key new entries) := by
  cases new with
  | none => exact h.erase key
  | some value => exact h.insert key value

def modify (key : String) (f : α → α) (entries : List (String × α)) : List (String × α) :=
  entries.map fun entry => (entry.1, if entry.1 = key then f entry.2 else entry.2)

theorem get?_modify (key other : String) (f : α → α) (entries : List (String × α)) :
    get? other (modify key f entries) =
      (get? other entries).map fun value => if other = key then f value else value :=
  get?_map other (fun k value => if k = key then f value else value) entries

theorem get?_modify_self (key : String) (f : α → α) (entries : List (String × α)) :
    get? key (modify key f entries) = (get? key entries).map f := by
  simp [get?_modify]

theorem get?_modify_of_ne {key other : String} (hne : other ≠ key) (f : α → α)
    (entries : List (String × α)) : get? other (modify key f entries) = get? other entries := by
  simp [get?_modify, hne]

theorem Ascending.modify {entries : List (String × α)} (h : Ascending entries) (key : String)
    (f : α → α) : Ascending (modify key f entries) := by
  rw [ascending_iff_keys] at h ⊢
  rwa [keys, Assoc.modify, List.map_map]

end Assoc

namespace Json

/-- The value with another member, or none, under a key of the object at a location. -/
def setMember (key : String) (new : Option Json) : Location → Json → Json
  | [], .obj members => .obj (Assoc.set key new members)
  | .key k :: rest, .obj members => .obj (Assoc.modify k (setMember key new rest) members)
  | .index i :: rest, .arr items => .arr (items.modify i (setMember key new rest))
  | _, value => value

variable {key : String} {new : Option Json}

/-- A value that is neither around the changed member nor in it stays. -/
theorem valueAt?_setMember_of_apart {outer other : Location} (hbelow : ¬outer.child key <+: other)
    (habove : ¬other <+: outer.child key) (value : Json) :
    (value.setMember key new outer).valueAt? other = value.valueAt? other := by
  induction outer generalizing other value with
  | nil =>
      match value, other with
      | _, [] => exact absurd (List.nil_prefix) habove
      | .obj members, .key k :: rest =>
          have hne : k ≠ key := by
            rintro rfl
            exact hbelow (List.cons_prefix_cons.mpr ⟨rfl, List.nil_prefix⟩)
          show (Assoc.get? k (Assoc.set key new members)).bind _ = _
          rw [Assoc.get?_set_of_ne hne]
          rfl
      | .obj _, .index _ :: _ | .null, _ | .bool _, _ | .num _, _ | .str _, _ | .arr _, _ => rfl
  | cons step outer ih =>
      match step, value, other with
      | _, _, [] => exact absurd (List.nil_prefix) habove
      | .key k, .obj members, .key k' :: rest =>
          show (Assoc.get? k' (Assoc.modify k (setMember key new outer) members)).bind _ = _
          by_cases hk : k' = k
          · subst hk
            rw [Assoc.get?_modify_self, Option.bind_map]
            refine Option.bind_congr fun inner _ => ?_
            refine ih (fun h => hbelow ?_) (fun h => habove ?_) inner
            · exact List.cons_prefix_cons.mpr ⟨rfl, h⟩
            · exact List.cons_prefix_cons.mpr ⟨rfl, h⟩
          · rw [Assoc.get?_modify_of_ne hk]
            rfl
      | .index i, .arr items, .index j :: rest =>
          show ((items.modify i (setMember key new outer))[j]?).bind _ = _
          by_cases hj : i = j
          · subst hj
            rw [List.getElem?_modify_eq, Option.map_eq_map, Option.bind_map]
            refine Option.bind_congr fun inner _ => ?_
            refine ih (fun h => hbelow ?_) (fun h => habove ?_) inner
            · exact List.cons_prefix_cons.mpr ⟨rfl, h⟩
            · exact List.cons_prefix_cons.mpr ⟨rfl, h⟩
          · rw [List.getElem?_modify_ne _ _ hj]
            rfl
      | .key _, .obj _, .index _ :: _ | .index _, .arr _, .key _ :: _ => rfl
      | .index _, .obj _, _ | .key _, .arr _, _ => rfl
      | .key _, .null, _ | .key _, .bool _, _ | .key _, .num _, _ | .key _, .str _, _ => rfl
      | .index _, .null, _ | .index _, .bool _, _ | .index _, .num _, _ | .index _, .str _, _ => rfl

end Json

end ContentForms

import ContentForms.Proofs.Hereditary

/-!
Ordered values: those whose objects, at any depth, are maps. Entering and erasing members leaves an
object in key order, so only such a value is ever read from a text, and a check keeps it so.
-/

namespace ContentForms

/-- Every object, at any depth, has its members in ascending key order, and none twice. -/
inductive Json.Ordered : Json → Prop
  | null : Ordered .null
  | bool (value : Bool) : Ordered (.bool value)
  | num (value : Number) : Ordered (.num value)
  | str (text : String) : Ordered (.str text)
  | arr {items : List Json} (each : ∀ item ∈ items, Ordered item) : Ordered (.arr items)
  | obj {members : List (String × Json)} (ascending : Assoc.Ascending members)
      (each : ∀ key value, (key, value) ∈ members → Ordered value) : Ordered (.obj members)

def OrderedInput (input : Option Json) : Prop :=
  ∀ value, input = some value → value.Ordered

namespace Json

theorem Ordered.get? {members : List (String × Json)} (h : (Json.obj members).Ordered)
    (key : String) : OrderedInput (Assoc.get? key members) := by
  intro value hget
  cases h with
  | obj _ each => exact each key value (Assoc.mem_of_get? hget)

theorem Ordered.ascending {members : List (String × Json)} (h : (Json.obj members).Ordered) :
    Assoc.Ascending members := by
  cases h with
  | obj ascending _ => exact ascending

theorem Ordered.of_mem {items : List Json} (h : (Json.arr items).Ordered) {item : Json}
    (hmem : item ∈ items) : item.Ordered := by
  cases h with
  | arr each => exact each item hmem

theorem Ordered.insert {members : List (String × Json)} (h : (Json.obj members).Ordered)
    (key : String) {value : Json} (hvalue : value.Ordered) :
    (Json.obj (Assoc.insert key value members)).Ordered := by
  cases h with
  | obj ascending each =>
      refine .obj (ascending.insert key value) ?_
      intro k v hmem
      rcases Assoc.mem_of_mem_insert hmem with heq | hmem
      · cases heq
        exact hvalue
      · exact each k v hmem

theorem Ordered.erase {members : List (String × Json)} (h : (Json.obj members).Ordered)
    (key : String) : (Json.obj (Assoc.erase key members)).Ordered := by
  cases h with
  | obj ascending each =>
      exact .obj (ascending.erase key) fun k v hmem => each k v (List.mem_of_mem_filter hmem)

theorem hereditary_ordered : Hereditary Ordered fun _ => True where
  null := .null
  bool := .bool
  num := fun _ => .num _
  str := .str
  arr_iff := ⟨fun h _ hmem => h.of_mem hmem, .arr⟩
  empty := .obj .nil (by simp)
  insert := fun key _ h hvalue => h.insert key hvalue
  erase := fun key h => h.erase key
  get? := fun h hget => h.get? _ _ hget

theorem ordered_of_read? {text : String} {value : Json} (h : read? text = some value) :
    value.Ordered :=
  has_of_read? hereditary_ordered (fun _ _ _ => trivial) h

end Json

end ContentForms

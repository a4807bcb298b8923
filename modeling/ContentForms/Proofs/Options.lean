import ContentForms.Field.Options
import Mathlib.Data.List.Induction
import Mathlib.Data.List.Nodup

/-!
Option sets are sets: reading one keeps the first option of each value, so no value is allowed
twice, and a list of options that has no value twice is kept as it is. Therefore an option set that
was read and is written out, in the one form in which sets are written, is read as the same set.

The reader goes through the items once and compares each option with those that it has kept. What
that amounts to is told by the list alone: an option stays exactly if no option before it in the
list, kept or not, has its value.
-/

namespace ContentForms

namespace SelectOption

/-! ### Items -/

/-- An item and the option it is good for: a scalar is shown as its text, and an object with a
scalar under `value` as the scalar under `label`, or else as its value. Other items are good for
none. -/
inductive StandsFor : Json → SelectOption → Prop
  | scalar {item : Json} {text : String} (h : item.scalarText? = some text) :
      StandsFor item (plain text)
  | labelled {members : List (String × Json)} {value label : String}
      (hvalue : (Assoc.get? "value" members).bind Json.scalarText? = some value)
      (hlabel : (Assoc.get? "label" members).bind Json.scalarText? = some label) :
      StandsFor (.obj members) ⟨value, label⟩
  | unlabelled {members : List (String × Json)} {value : String}
      (hvalue : (Assoc.get? "value" members).bind Json.scalarText? = some value)
      (hlabel : (Assoc.get? "label" members).bind Json.scalarText? = none) :
      StandsFor (.obj members) (plain value)

theorem ofItem?_of_scalarText? {item : Json} {text : String} (h : item.scalarText? = some text) :
    ofItem? item = some (plain text) := by
  rw [ofItem?, h]

theorem ofItem?_obj (members : List (String × Json)) :
    ofItem? (.obj members) = ((Assoc.get? "value" members).bind Json.scalarText?).map fun value =>
      ⟨value, ((Assoc.get? "label" members).bind Json.scalarText?).getD value⟩ := by
  rw [ofItem?, Option.map_eq_bind]
  rfl

theorem ofItem?_eq_some_iff {item : Json} {option : SelectOption} :
    ofItem? item = some option ↔ StandsFor item option := by
  constructor
  · intro h
    cases item with
    | obj members =>
        rw [ofItem?_obj] at h
        obtain ⟨value, hvalue, rfl⟩ := Option.map_eq_some_iff.mp h
        cases hlabel : (Assoc.get? "label" members).bind Json.scalarText? with
        | none => exact .unlabelled hvalue hlabel
        | some label => exact .labelled hvalue hlabel
    | null | arr => cases h
    | str | num | bool =>
        cases h
        exact .scalar rfl
  · intro h
    cases h with
    | scalar h => exact ofItem?_of_scalarText? h
    | labelled hvalue hlabel | unlabelled hvalue hlabel =>
        rw [ofItem?_obj, hvalue, hlabel]
        rfl

end SelectOption

namespace OptionSet

/-! ### Keeping the first option of each value -/

def keepNew (kept : List SelectOption) (option : SelectOption) : List SelectOption :=
  if kept.any (·.value == option.value) then kept else kept ++ [option]

theorem distinct_eq_foldl (options : List SelectOption) :
    distinct options = options.foldl keepNew [] := rfl

/-- The options at whose place in the list their value occurs for the first time. -/
def firstOccurrences (options : List SelectOption) : List SelectOption :=
  (options.zipIdx.filter fun entry =>
    entry.1.value ∉ (options.take entry.2).map SelectOption.value).map Prod.fst

section Step

variable {kept : List SelectOption} {option : SelectOption}

theorem any_value_iff {value : String} :
    kept.any (·.value == value) ↔ value ∈ kept.map SelectOption.value := by
  simp [List.any_eq_true]

theorem keepNew_of_mem (h : option.value ∈ kept.map SelectOption.value) :
    keepNew kept option = kept := by
  rw [keepNew, if_pos (any_value_iff.mpr h)]

theorem keepNew_of_not_mem (h : option.value ∉ kept.map SelectOption.value) :
    keepNew kept option = kept ++ [option] := by
  rw [keepNew, if_neg (mt any_value_iff.mp h)]

end Step

/-- Whether an option further on is a first one does not change those before it. -/
theorem firstOccurrences_concat (options : List SelectOption) (option : SelectOption) :
    firstOccurrences (options ++ [option]) =
      if option.value ∈ options.map SelectOption.value then firstOccurrences options
      else firstOccurrences options ++ [option] := by
  have hbefore : options.zipIdx.filter (fun entry =>
        entry.1.value ∉ ((options ++ [option]).take entry.2).map SelectOption.value) =
      options.zipIdx.filter fun entry =>
        entry.1.value ∉ (options.take entry.2).map SelectOption.value := by
    refine List.filter_congr fun entry hentry => ?_
    have hplace : entry.2 < options.length := by
      simpa using List.snd_lt_add_of_mem_zipIdx hentry
    rw [List.take_append_of_le_length (Nat.le_of_lt hplace)]
  rw [firstOccurrences, List.zipIdx_append, List.filter_append, hbefore, List.map_append,
    ← firstOccurrences]
  by_cases hknown : option.value ∈ options.map SelectOption.value <;>
    simp [hknown]

structure KeepsFirsts (seen kept : List SelectOption) : Prop where
  firsts : kept = firstOccurrences seen
  nodup : (kept.map SelectOption.value).Nodup
  found : ∀ value, kept.find? (·.value = value) = seen.find? (·.value = value)

namespace KeepsFirsts

variable {seen kept : List SelectOption} {option : SelectOption}

theorem mem_values_iff (h : KeepsFirsts seen kept) (value : String) :
    value ∈ kept.map SelectOption.value ↔ value ∈ seen.map SelectOption.value := by
  have hfind (options : List SelectOption) : value ∈ options.map SelectOption.value ↔
      (options.find? (·.value = value)).isSome := by simp
  rw [hfind, hfind, h.found]

theorem step (h : KeepsFirsts seen kept) (option : SelectOption) :
    KeepsFirsts (seen ++ [option]) (keepNew kept option) := by
  by_cases hknown : option.value ∈ seen.map SelectOption.value
  · have hkept := (h.mem_values_iff _).mpr hknown
    rw [keepNew_of_mem hkept]
    refine ⟨by rw [firstOccurrences_concat, if_pos hknown, ← h.firsts], h.nodup, fun value => ?_⟩
    rw [h.found, List.find?_append]
    by_cases hvalue : option.value = value
    · -- The value has been found before, so the option is not reached.
      obtain ⟨first, hfirst⟩ : ∃ first, seen.find? (·.value = value) = some first := by
        rw [← Option.isSome_iff_exists]
        simpa [hvalue] using hknown
      rw [hfirst, Option.some_or]
    · simp [hvalue]
  · have hnew := mt (h.mem_values_iff _).mp hknown
    rw [keepNew_of_not_mem hnew]
    refine ⟨by rw [firstOccurrences_concat, if_neg hknown, ← h.firsts], ?_, fun value => ?_⟩
    · rw [List.map_append]
      exact h.nodup.append (List.nodup_singleton _) (by simpa using hnew)
    · rw [List.find?_append, List.find?_append, h.found]

end KeepsFirsts

theorem keepsFirsts_distinct (options : List SelectOption) :
    KeepsFirsts options (distinct options) := by
  induction options using List.reverseRecOn with
  | nil => exact ⟨rfl, List.nodup_nil, fun _ => rfl⟩
  | append_singleton seen option ih =>
      rw [distinct_eq_foldl, List.foldl_concat, ← distinct_eq_foldl]
      exact ih.step option

theorem nodup_distinct (options : List SelectOption) :
    ((distinct options).map SelectOption.value).Nodup :=
  (keepsFirsts_distinct options).nodup

theorem distinct_of_nodup {options : List SelectOption}
    (h : (options.map SelectOption.value).Nodup) : distinct options = options := by
  induction options using List.reverseRecOn with
  | nil => rfl
  | append_singleton seen option ih =>
      rw [List.map_append, List.nodup_append] at h
      have hnew : option.value ∉ seen.map SelectOption.value :=
        fun hmem => h.2.2 _ hmem _ (List.mem_singleton_self _) rfl
      rw [distinct_eq_foldl, List.foldl_concat, ← distinct_eq_foldl, ih h.1,
        keepNew_of_not_mem hnew]

/-! ### Reading and writing -/

/-- The items of the list that options are written as, bare or under `values`. -/
def listed : Json → List Json
  | .arr items => items
  | .obj members =>
      match Assoc.get? "values" members with
      | some (.arr items) => items
      | _ => []
  | _ => []

theorem values_ofJson (raw : Json) :
    (ofJson raw).values = distinct ((listed raw).filterMap SelectOption.ofItem?) := by
  cases raw with
  | obj members =>
      rw [ofJson, listed]
      cases Assoc.get? "values" members with
      | none => rfl
      | some list => cases list <;> rfl
  | _ => rfl

theorem eq_empty {options : OptionSet} (hvalues : options.isEmpty)
    (hmultiple : options.multiple = false) : options = .empty := by
  obtain ⟨values, multiple⟩ := options
  rw [isEmpty, List.isEmpty_iff] at hvalues
  rw [empty, mk.injEq]
  exact ⟨hvalues, hmultiple⟩

theorem nodup_allowed_ofJson (raw : Json) : (ofJson raw).allowed.Nodup := by
  rw [allowed, values_ofJson]
  exact nodup_distinct _

/-- Reading options is picking the usable items of the list and dropping those whose value an
earlier one has: the values that are left stand in the order of the list, each with the label of the
first item that it is read from, and they are the texts that some item of the list stands for. -/
theorem ofJson_drops_later_occurrences (raw : Json) :
    (∀ item option, SelectOption.ofItem? item = some option ↔
      SelectOption.StandsFor item option) ∧
    (ofJson raw).values = firstOccurrences ((listed raw).filterMap SelectOption.ofItem?) ∧
    (∀ text, (ofJson raw).values.find? (·.value = text) =
      ((listed raw).filterMap SelectOption.ofItem?).find? (·.value = text)) ∧
    (ofJson raw).allowed.Nodup ∧
    ∀ text, text ∈ (ofJson raw).allowed ↔
      ∃ item ∈ listed raw, ∃ label, SelectOption.StandsFor item ⟨text, label⟩ := by
  have hkeeps := keepsFirsts_distinct ((listed raw).filterMap SelectOption.ofItem?)
  rw [← values_ofJson] at hkeeps
  refine ⟨fun _ _ => SelectOption.ofItem?_eq_some_iff, hkeeps.firsts, hkeeps.found, hkeeps.nodup,
    fun text => ?_⟩
  rw [allowed, hkeeps.mem_values_iff]
  constructor
  · intro hmem
    obtain ⟨⟨value, label⟩, hoption, rfl⟩ := List.mem_map.mp hmem
    obtain ⟨item, hitem, hread⟩ := List.mem_filterMap.mp hoption
    exact ⟨item, hitem, label, SelectOption.ofItem?_eq_some_iff.mp hread⟩
  · rintro ⟨item, hitem, label, hstands⟩
    exact List.mem_map_of_mem
      (List.mem_filterMap.mpr ⟨item, hitem, SelectOption.ofItem?_eq_some_iff.mpr hstands⟩)

/-- A number and the text that it is written as are one value, and the first of them names it. -/
example : (ofJson (.arr [.num (.int 1), .null, .obj [("label", .str "One"), ("value", .str "1")],
    .bool true])).values = [.plain "1", .plain "true"] := by decide

theorem ofItem?_toJson (option : SelectOption) : SelectOption.ofItem? option.toJson = some option :=
  rfl

theorem filterMap_ofItem?_toJson (options : List SelectOption) :
    (options.map SelectOption.toJson).filterMap SelectOption.ofItem? = options := by
  rw [List.filterMap_map]
  have hitem : SelectOption.ofItem? ∘ SelectOption.toJson = some := funext ofItem?_toJson
  rw [hitem, List.filterMap_some]

theorem ofJson_toJson {options : OptionSet} (h : options.allowed.Nodup) :
    ofJson options.toJson = options := by
  obtain ⟨values, multiple⟩ := options
  show ofItems (values.map SelectOption.toJson) multiple = ⟨values, multiple⟩
  rw [ofItems, filterMap_ofItem?_toJson, distinct_of_nodup h]

end OptionSet

end ContentForms

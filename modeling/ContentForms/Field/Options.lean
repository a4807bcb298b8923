import ContentForms.Json.Decode

/-!
The options of a select field. Schemas write them as a bare list, or as an object with a list
under `values` and a flag under `multiple`; an item is a scalar, or an object with a scalar
`value` and perhaps a scalar `label`. All of these become one `OptionSet`. Items of other shapes
are passed over, and of several items with one value the first is kept, so the values are
distinct.
-/

namespace ContentForms

structure SelectOption where
  value : String
  label : String
  deriving DecidableEq

structure OptionSet where
  values : List SelectOption
  multiple : Bool
  deriving DecidableEq

namespace SelectOption

/-- An option that is shown as its value. -/
def plain (value : String) : SelectOption :=
  ⟨value, value⟩

def ofItem? (item : Json) : Option SelectOption :=
  match item.scalarText? with
  | some value => some (plain value)
  | none => do
      let value ← (item.get? "value").bind Json.scalarText?
      let label := ((item.get? "label").bind Json.scalarText?).getD value
      pure ⟨value, label⟩

def toJson (option : SelectOption) : Json :=
  .obj [("label", .str option.label), ("value", .str option.value)]

end SelectOption

namespace OptionSet

def empty : OptionSet := ⟨[], false⟩

def distinct (options : List SelectOption) : List SelectOption :=
  options.foldl (fun kept o => if kept.any (·.value == o.value) then kept else kept ++ [o]) []

def ofItems (items : List Json) (multiple : Bool) : OptionSet :=
  ⟨distinct (items.filterMap SelectOption.ofItem?), multiple⟩

/-- The options that a value stands for; none for a value of another shape. -/
def ofJson (raw : Json) : OptionSet :=
  match raw with
  | .arr items => ofItems items false
  | .obj members =>
      match Assoc.get? "values" members with
      | some (.arr items) =>
          ofItems items (((Assoc.get? "multiple" members).bind Json.bool?).getD false)
      | _ => empty
  | _ => empty

def allowed (options : OptionSet) : List String :=
  options.values.map SelectOption.value

def isEmpty (options : OptionSet) : Bool :=
  options.values.isEmpty

def toJson (options : OptionSet) : Json :=
  .obj [("multiple", .bool options.multiple),
    ("values", .arr (options.values.map SelectOption.toJson))]

end OptionSet

end ContentForms

import ContentForms.Json.Printer
import ContentForms.Text.Quoted
import ContentForms.Yaml.Expand
import ContentForms.Yaml.Token.Reader

/-!
YAML values as JSON. Tags are dropped and scalar keys become texts, so two keys that differ as
values can become one key, and the later entry stays. Keys of other forms and floats that are not
finite have no counterpart; the first of them in the order of the document is the error.
-/

namespace ContentForms.Yaml

inductive JsonError where
  | unsupportedKey (key : Value)
  | infinite (negative : Bool)
  | notANumber

namespace Number

/-- Numbers as texts: like those of JSON, but a positive exponent bears no sign. -/
def layout : Binary64.Layout :=
  { ContentForms.Number.layout with plusSign := false }

def text : Number → String
  | .int i => String.ofList (Text.decimalInt i)
  | .float x => String.ofList (x.render layout)
  | .infinity negative => if negative then "-.inf" else ".inf"
  | .notANumber => ".nan"

end Number

mutual
/-- The text of a value in messages: its type and, in brackets, its content. -/
def Value.describe : Value → String
  | .null => "Null"
  | .bool b => "Bool(" ++ toString b ++ ")"
  | .num n => "Number(" ++ n.text ++ ")"
  | .str s => "String(" ++ Text.quoted s ++ ")"
  | .sequence items => "Sequence [" ++ ", ".intercalate (describeItems items) ++ "]"
  | .mapping entries => "Mapping \x7b" ++ ", ".intercalate (describeEntries entries) ++ "\x7d"
  | .tagged tag inner =>
      "TaggedValue \x7b tag: !" ++ tag ++ ", value: " ++ inner.describe ++ " \x7d"

def Value.describeItems : List Value → List String
  | [] => []
  | item :: rest => item.describe :: describeItems rest

/-- The entries of a mapping. A key that is a scalar is given without its type. -/
def Value.describeEntries : List (Value × Value) → List String
  | [] => []
  | (key, value) :: rest =>
      (describeKey key ++ ": " ++ value.describe) :: describeEntries rest

def Value.describeKey : Value → String
  | .bool b => toString b
  | .num n => n.text
  | .str s => Text.quoted s
  | .null => "Null"
  | .sequence items => "Sequence [" ++ ", ".intercalate (describeItems items) ++ "]"
  | .mapping entries => "Mapping \x7b" ++ ", ".intercalate (describeEntries entries) ++ "\x7d"
  | .tagged tag inner =>
      "TaggedValue \x7b tag: !" ++ tag ++ ", value: " ++ inner.describe ++ " \x7d"
end

def JsonError.message : JsonError → String
  | .unsupportedKey key => "unsupported YAML map key: " ++ key.describe
  | .infinite negative =>
      "cannot represent float " ++ (if negative then "-inf" else "inf") ++ " in JSON"
  | .notANumber => "cannot represent float NaN in JSON"

def Value.keyText : Value → Except JsonError String
  | .str s => .ok s
  | .num n => .ok n.text
  | .bool b => .ok (if b then "true" else "false")
  | key => .error (.unsupportedKey key)

mutual
def Value.toJson : Value → Except JsonError Json
  | .null => .ok .null
  | .bool b => .ok (.bool b)
  | .num (.int i) => .ok (.num (.int i))
  | .num (.float x) => .ok (.num (.float x))
  | .num (.infinity negative) => .error (.infinite negative)
  | .num .notANumber => .error .notANumber
  | .str s => .ok (.str s)
  | .sequence items => (itemsToJson items).map .arr
  | .mapping entries => (entriesToJson entries []).map .obj
  | .tagged _ value => value.toJson

def Value.itemsToJson : List Value → Except JsonError (List Json)
  | [] => .ok []
  | item :: rest => do
      let value ← item.toJson
      let values ← itemsToJson rest
      pure (value :: values)

def Value.entriesToJson : List (Value × Value) → List (String × Json) →
    Except JsonError (List (String × Json))
  | [], members => .ok members
  | (key, value) :: rest, members => do
      let name ← key.keyText
      let member ← value.toJson
      entriesToJson rest (Assoc.insert name member members)
end

/-- Reads a text that holds one document, or none, which counts as null; nothing if it is
refused. -/
def read? (text : String) : Option Value := do
  let tokens ← tokens? text.toList
  match ← Node.ofTokens? tokens with
  | none => some .null
  | some root => root.value?

inductive ReadError where
  | invalid
  | unrepresentable (cause : JsonError)

def readJson (text : String) : Except ReadError Json :=
  match read? text with
  | none => .error .invalid
  | some value => value.toJson.mapError .unrepresentable

end ContentForms.Yaml

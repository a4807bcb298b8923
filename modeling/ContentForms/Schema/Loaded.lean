import ContentForms.Rule.Compile
import ContentForms.Schema.Document
import ContentForms.Yaml.ToJson

/-!
Loading a schema: from its text over its JSON value, which is kept as the source, to its document
and the compiled rules. The text is YAML, of which JSON is a part. An empty text is an error of
its own; every other value that is no schema document is refused for its shape.
-/

namespace ContentForms

inductive SchemaFault where
  | invalidYaml
  | unrepresentable (cause : Yaml.JsonError)
  | empty
  | wrongShape

def SchemaFault.reason : SchemaFault → String
  | invalidYaml => "invalid YAML"
  | unrepresentable cause => cause.message
  | empty => "empty schema"
  | wrongShape =>
      "not a field list or section map: " ++
        "data did not match any variant of untagged enum SchemaDocument"

structure SchemaError where
  sourceName : String
  fault : SchemaFault

def SchemaError.message (e : SchemaError) : String :=
  "schema parse error for '" ++ e.sourceName ++ "': " ++ e.fault.reason

/-- A schema as it was written, as it was understood and as it is checked. -/
structure LoadedSchema where
  source : Json
  document : SchemaDocument
  compiled : CompiledSchema
  compiled_eq : compiled = document.compile := by rfl

namespace LoadedSchema

def ofSource (source : Json) : Except SchemaFault LoadedSchema :=
  match SchemaDocument.ofJson? source with
  | none => .error .wrongShape
  | some document => .ok { source, document, compiled := document.compile }

/-- The value of a schema text, with all keys that the text has. -/
def readSource (text : String) : Except SchemaFault Json :=
  match Yaml.readJson text with
  | .error .invalid => .error .invalidYaml
  | .error (.unrepresentable cause) => .error (.unrepresentable cause)
  | .ok .null => .error .empty
  | .ok source => .ok source

def read (text sourceName : String) : Except SchemaError LoadedSchema :=
  (readSource text >>= ofSource).mapError (⟨sourceName, ·⟩)

end LoadedSchema

end ContentForms

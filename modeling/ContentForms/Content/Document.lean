import ContentForms.Json.Reader
import ContentForms.Text.Split
import ContentForms.Yaml.ToJson

/-!
Document texts. A document is written in JSON, or in YAML where the extension of its file says so;
in either case what is validated and stored is a JSON value.
-/

namespace ContentForms

inductive DocumentFormat where
  | json
  | yaml
  deriving DecidableEq

inductive DocumentError where
  | invalidJson
  | invalidYaml
  | unrepresentable (cause : Yaml.JsonError)

def DocumentError.message : DocumentError → String
  | invalidJson => "invalid JSON"
  | invalidYaml => "invalid YAML"
  | unrepresentable cause => "YAML-to-JSON conversion failed: " ++ cause.message

namespace DocumentFormat

/-- The format that the name of a file announces. A dot at the start of the name begins no
extension. -/
def ofFileName (name : String) : DocumentFormat :=
  match Text.splitLast? '.' name.toList with
  | some (stem, extension) =>
      if !stem.isEmpty && ["yaml", "yml"].contains (String.ofList extension) then yaml else json
  | none => json

def read : DocumentFormat → String → Except DocumentError Json
  | json, text => (Json.read? text).elim (.error .invalidJson) .ok
  | yaml, text =>
      (Yaml.readJson text).mapError fun
        | .invalid => .invalidYaml
        | .unrepresentable cause => .unrepresentable cause

end DocumentFormat

end ContentForms

import ContentForms.Json.Printer

/-!
Reading typed data out of JSON values: the ways in which a value can fail to be what is asked for,
and the text of a scalar.
-/

namespace ContentForms

inductive DecodeError where
  /-- The value has another type than the one asked for. -/
  | wrongType
  /-- A list stands for a record and has too few or too many items. -/
  | wrongLength
  | missingField (name : String)
  | duplicateField (name : String)
  | unknownVariant (given : String) (known : List String)
  /-- An object stands for a variant and has not exactly one member. -/
  | notOneMember
  /-- The type is right, and the value is refused for a reason of its own. -/
  | refused (reason : String)
  deriving DecidableEq

namespace DecodeError

def codeQuote (s : String) : String :=
  "\x60" ++ s ++ "\x60"

def message : DecodeError → String
  | wrongType => "invalid type"
  | wrongLength => "invalid length"
  | missingField name => "missing field " ++ codeQuote name
  | duplicateField name => "duplicate field " ++ codeQuote name
  | unknownVariant given known =>
      "unknown variant " ++ codeQuote given ++ ", expected " ++
        " or ".intercalate (known.map codeQuote)
  | notOneMember => "invalid value: map, expected map with a single key"
  | refused reason => reason

end DecodeError

namespace Json

def scalarText? : Json → Option String
  | .str s => some s
  | .num n => some (String.ofList n.render)
  | .bool b => some (if b then "true" else "false")
  | _ => none

end Json

end ContentForms

import ContentForms.Http.Message
import ContentForms.Schema.Loaded
import ContentForms.Store.Documents
import ContentForms.Validation.Report

/-!
Why a request fails. A failure decides the status and the code of the response, and a message for
the client; a rejected document carries its error report as well. What goes wrong inside the
service is not shown.
-/

namespace ContentForms

/-- What can go wrong inside the service. -/
inductive InternalCause where
  | store (error : StoreError)
  | schema (error : SchemaError)

def InternalCause.message : InternalCause → String
  | store error => error.message
  | schema error => error.message

inductive Failure where
  | notFound (reason : String)
  /-- The request breaks a rule other than those of the schema. -/
  | invalid (reason : String)
  | rejected (report : ErrorReport)
  | badRequest (reason : String)
  | conflict (reason : String)
  | internal (cause : InternalCause)

namespace Failure

def ofName (e : NameError) : Failure :=
  badRequest e.message

def ofStore (e : StoreError) : Failure :=
  internal (.store e)

def status : Failure → Nat
  | notFound _ => 404
  | invalid _ | rejected _ => 422
  | badRequest _ => 400
  | conflict _ => 409
  | internal _ => 500

def code : Failure → String
  | notFound _ => "NOT_FOUND"
  | invalid _ | rejected _ => "VALIDATION_ERROR"
  | badRequest _ => "BAD_REQUEST"
  | conflict _ => "CONFLICT"
  | internal _ => "INTERNAL_ERROR"

def publicMessage : Failure → String
  | notFound reason | invalid reason | badRequest reason | conflict reason => reason
  | rejected _ => "document failed schema validation"
  | internal _ => "An internal error occurred"

def message : Failure → String
  | notFound reason => "not found: " ++ reason
  | invalid reason => "validation error: " ++ reason
  | rejected report =>
      "document rejected: " ++ String.ofList (Text.decimal report.size) ++ " field(s) invalid"
  | badRequest reason => "bad request: " ++ reason
  | conflict reason => "conflict: " ++ reason
  | internal cause => "internal error: " ++ cause.message

def details : Failure → List (String × Json)
  | rejected report => [("details", report.toJson)]
  | _ => []

def toJson (f : Failure) : Json :=
  .obj [("error",
    .obj ([("code", .str f.code), ("message", .str f.publicMessage)] ++ f.details))]

def response (f : Failure) : Http.Response :=
  .json f.status f.toJson.compact

end Failure

end ContentForms

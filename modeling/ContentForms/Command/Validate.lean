import ContentForms.Command.Outcome
import ContentForms.Validation.Report

/-!
The command `validate` checks a document by a schema, as the service does before it stores one. It
prints the accepted document or the errors, either as JSON or in lines to read.
-/

namespace ContentForms.Command

def rejectedCode : Nat := 2

def issueLine (issue : Issue) : String :=
  (if issue.location.isRoot then "(documento)" else issue.location.dotted) ++ ": " ++ issue.message

def describe (validation : Validation) (json : Bool) : String :=
  match validation with
  | .accepted value => if json then value.pretty else "ok"
  | .rejected issues =>
      if json then (ErrorReport.ofIssues issues).toJson.pretty
      else "\n".intercalate (issues.map issueLine)

def validate (read : FileReader) (schemaPath documentPath : String) (json : Bool) : Outcome :=
  match loadSchema read schemaPath with
  | .error e => schemaFailure schemaPath e
  | .ok schema =>
      match loadDocument read documentPath with
      | .error e => documentFailure documentPath e
      | .ok document =>
          let validation := schema.compiled.validate document
          .finished (if validation.isAccepted then 0 else rejectedCode)
            (describe validation json ++ "\n")

end ContentForms.Command

import ContentForms.Assoc
import ContentForms.Json.Printer
import ContentForms.Validation.Check

/-!
Error reports: the messages of a list of issues, grouped by dotted path. The paths are in ascending
order, and under each path the messages are in the order in which they were found.
-/

namespace ContentForms

structure ErrorReport where
  entries : List (String × List String)
  deriving DecidableEq

namespace ErrorReport

def empty : ErrorReport := ⟨[]⟩

def add (report : ErrorReport) (issue : Issue) : ErrorReport :=
  let path := issue.location.dotted
  let found := (Assoc.get? path report.entries).getD []
  ⟨Assoc.insert path (found ++ [issue.message]) report.entries⟩

def ofIssues (issues : List Issue) : ErrorReport :=
  issues.foldl add empty

def messages (report : ErrorReport) (path : String) : List String :=
  (Assoc.get? path report.entries).getD []

def message? (report : ErrorReport) (path : String) : Option String :=
  (report.messages path).head?

def size (report : ErrorReport) : Nat :=
  report.entries.length

def isEmpty (report : ErrorReport) : Bool :=
  report.entries.isEmpty

def toJson (report : ErrorReport) : Json :=
  .obj (report.entries.map fun (path, messages) => (path, .arr (messages.map .str)))

end ErrorReport

end ContentForms

import ContentForms.Command.Outcome
import ContentForms.Schema.Summary

/-!
The command `schema` prints the summary of a schema, as JSON or as a table with a line for each
row and the number of fields at the end.
-/

namespace ContentForms.Command

def padRight (width : Nat) (s : String) : String :=
  s ++ String.ofList (List.replicate (width - s.length) ' ')

/-- The width of the column of paths: the size of the longest path in UTF-8. -/
def pathWidth (rows : List SummaryRow) : Nat :=
  (rows.map fun row => row.path.utf8ByteSize).foldl max 0

def tableLine (width : Nat) (row : SummaryRow) : String :=
  padRight width row.path ++ "  " ++ padRight 9 row.kind ++ " " ++ row.label ++
    (if row.nested then "  (nested)" else "") ++ "\n"

def table (rows : List SummaryRow) : String :=
  String.join (rows.map (tableLine (pathWidth rows)))

def summarize (read : FileReader) (schemaPath : String) (json : Bool) : Outcome :=
  match loadSchema read schemaPath with
  | .error e => schemaFailure schemaPath e
  | .ok schema =>
      let rows := schema.document.summary
      if json then .finished 0 ((Json.arr (rows.map SummaryRow.toJson)).pretty ++ "\n")
      else
        .finished 0 (table rows ++ String.ofList (Text.decimal schema.document.fieldCount) ++
          " field(s)\n")

end ContentForms.Command

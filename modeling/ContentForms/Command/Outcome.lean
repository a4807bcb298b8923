import ContentForms.Content.Document
import ContentForms.Schema.Loaded
import ContentForms.Store.PathText

/-!
Commands on files. A command reads files by their paths and gives what it prints and its exit
code. It fails if a file cannot be loaded; the error then names the file and the reason, from the
outside in.
-/

namespace ContentForms.Command

structure Outcome where
  exitCode : Nat
  output : String
  error : Option String
  deriving DecidableEq

namespace Outcome

def finished (exitCode : Nat) (output : String) : Outcome :=
  ⟨exitCode, output, none⟩

/-- A command that failed, with the reasons from the outermost to the innermost. -/
def failed (reasons : List String) : Outcome :=
  ⟨1, "", some (": ".intercalate reasons)⟩

end Outcome

/-- Why a schema file cannot be loaded: it cannot be read, or holds no schema. -/
inductive SchemaFileError where
  | unreadable (cause : DiskError)
  | schema (error : SchemaError)

/-- The reasons, of which a cause is one of its own. -/
def SchemaFileError.reasons : SchemaFileError → List String
  | unreadable cause => ["io error: " ++ cause.message, cause.message]
  | schema error => [error.message]

inductive DocumentFileError where
  | unreadable (cause : DiskError)
  | document (error : DocumentError)

def DocumentFileError.reason : DocumentFileError → String
  | unreadable cause => "cannot read file: " ++ cause.message
  | document error => error.message

abbrev FileReader := String → Except DiskError String

/-- Loads the schema in a file. Errors name it by the last name of its path. -/
def loadSchema (read : FileReader) (path : String) : Except SchemaFileError LoadedSchema := do
  let text ← (read path).mapError .unreadable
  (LoadedSchema.read text ((PathText.fileName? path).getD path)).mapError .schema

def formatOf (path : String) : DocumentFormat :=
  ((PathText.fileName? path).map DocumentFormat.ofFileName).getD .json

def loadDocument (read : FileReader) (path : String) : Except DocumentFileError Json := do
  let text ← (read path).mapError .unreadable
  ((formatOf path).read text).mapError .document

def schemaFailure (path : String) (e : SchemaFileError) : Outcome :=
  .failed (("failed to load schema " ++ path) :: e.reasons)

def documentFailure (path : String) (e : DocumentFileError) : Outcome :=
  .failed ["failed to load document " ++ path,
    "document load error for '" ++ path ++ "': " ++ e.reason]

end ContentForms.Command

import ContentForms.Json.Printer
import ContentForms.Json.Reader
import ContentForms.Store.Layout

/-!
Stored schemas and documents. Schemas are listed by the names of their files; documents are JSON,
written over several lines. What is not there is no error when it is read.

Writing gives a disk whether it succeeds or not, with all that was done before the call that failed:
directories that were added stay, and so does a file that was created and could not be filled or
flushed.
-/

namespace ContentForms

inductive StoreError where
  | disk (cause : DiskError)
  /-- A stored document is not JSON. -/
  | corrupt (path : DiskPath)
  /-- Something is in the place of a file that was to be created. -/
  | alreadyExists (path : DiskPath)
  /-- The names that an upload may have are all taken. -/
  | noUploadName
  deriving DecidableEq

def StoreError.message : StoreError → String
  | disk cause => "io error: " ++ cause.message
  | corrupt path => "corrupt document '" ++ "/".intercalate path ++ "'"
  | alreadyExists path => "document '" ++ "/".intercalate path ++ "' already exists"
  | noUploadName => "could not allocate a unique upload name"

namespace Store

/-- The keys that the names in the schema directory stand for, in order. -/
def keysOf (names : List String) : List ContentKey :=
  ContentKey.sort (names.filterMap ContentKey.ofFileName?)

def keys (disk : Disk) (faults : Faults := .none) : Except StoreError (List ContentKey) :=
  match faults.on (.list Layout.schemas) (disk.names Layout.schemas) with
  | .ok names => .ok (keysOf names)
  | .error .notFound => .ok []
  | .error e => .error (.disk e)

/-- The text of a file, or nothing if there is no such file. -/
def text? (disk : Disk) (path : DiskPath) (faults : Faults := .none) :
    Except StoreError (Option String) :=
  match faults.on (.read path) (disk.readText path) with
  | .ok text => .ok (some text)
  | .error .notFound => .ok none
  | .error e => .error (.disk e)

def schemaText? (disk : Disk) (key : ContentKey) (faults : Faults := .none) :
    Except StoreError (Option String) :=
  text? disk (Layout.schemaFile key) faults

def document? (disk : Disk) (path : DiskPath) (faults : Faults := .none) :
    Except StoreError (Option Json) := do
  match ← text? disk path faults with
  | none => pure none
  | some text =>
      match Json.read? text with
      | some document => pure (some document)
      | none => throw (.corrupt path)

/-- Writes a file, new or not, once the directories above it are there. -/
def writeContent (disk : Disk) (path : DiskPath) (content : ByteArray) (faults : Faults := .none) :
    Except StoreError Unit × Disk :=
  match faults.on (.makeDirectories path.dropLast) (disk.addDirectories path.dropLast) with
  | .error e => (.error (.disk e), disk)
  | .ok base =>
      match faults.error? (.write path), disk.writeFile path content with
      | some e, _ => (.error (.disk e), base)
      | none, .ok written => (.ok (), written)
      -- What is in the place of the file has its directories above it, so none was added.
      | none, .error e => (.error (.disk e), disk)

/-- Writes a file where nothing has been, once the directories above it are there. The file is
created without content, which it gets after that. -/
def createContent (disk : Disk) (path : DiskPath) (content : ByteArray)
    (faults : Faults := .none) : Except StoreError Unit × Disk :=
  match faults.on (.makeDirectories path.dropLast) (disk.addDirectories path.dropLast) with
  | .error e => (.error (.disk e), disk)
  | .ok base =>
      match faults.error? (.create path), disk.createFile path .empty with
      | some .alreadyExists, _ => (.error (.alreadyExists path), base)
      | some e, _ => (.error (.disk e), base)
      | none, .error .alreadyExists => (.error (.alreadyExists path), disk)
      | none, .error e => (.error (.disk e), disk)
      | none, .ok created =>
          match faults.error? (.fill path) with
          | some e => (.error (.disk e), created)
          | none =>
              let filled := created.put path (.file content)
              match faults.error? (.flush path) with
              | some e => (.error (.disk e), filled)
              | none => (.ok (), filled)

def writeDocument (disk : Disk) (path : DiskPath) (document : Json) (faults : Faults := .none) :
    Except StoreError Unit × Disk :=
  writeContent disk path document.pretty.toUTF8 faults

def createDocument (disk : Disk) (path : DiskPath) (document : Json) (faults : Faults := .none) :
    Except StoreError Unit × Disk :=
  createContent disk path document.pretty.toUTF8 faults

end Store

end ContentForms

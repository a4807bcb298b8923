import ContentForms.FiniteMap

/-!
Disks. A disk is a finite map from paths to files and directories; the root is a directory that is
always there. Reading and writing can fail as on a file system: a path can lead to nothing,
through a file, or to the wrong kind of node. An operation that fails leaves the disk as it was,
and one that succeeds changes the node at its own path, besides adding the directories above it.

A call to the file system can also fail for reasons that are not on the disk, such as a lack of
space or of permission. Which calls do is given by `Faults`; they fail without effect. What takes
several calls can thus fail half way.
-/

namespace ContentForms

/-- A place on a disk: the names that lead to it from the root. -/
abbrev DiskPath := List String

inductive DiskNode where
  | file (content : ByteArray)
  | directory

inductive DiskError where
  | notFound
  | isDirectory
  | notDirectory
  | alreadyExists
  /-- The content of a file is not UTF-8. -/
  | notText
  | other (text : String)
  deriving DecidableEq

def DiskError.message : DiskError → String
  | notFound => "No such file or directory (os error 2)"
  | isDirectory => "Is a directory (os error 21)"
  | notDirectory => "Not a directory (os error 20)"
  | alreadyExists => "File exists (os error 17)"
  | notText => "stream did not contain valid UTF-8"
  | other text => text

inductive DiskCall where
  | list (directory : DiskPath)
  | read (path : DiskPath)
  | probe (path : DiskPath)
  | makeDirectories (path : DiskPath)
  | write (path : DiskPath)
  /-- Opens a file that must not be there yet. -/
  | create (path : DiskPath)
  /-- Writes the content of a file that was just created. -/
  | fill (path : DiskPath)
  /-- Waits for the content of a file that was just filled. -/
  | flush (path : DiskPath)

/-- The calls that fail whatever is on the disk, each with its error. -/
structure Faults where
  error? : DiskCall → Option DiskError

namespace Faults

def none : Faults :=
  ⟨fun _ => .none⟩

/-- What comes of a call that gives a result unless it fails. -/
def on (faults : Faults) (call : DiskCall) (result : Except DiskError α) : Except DiskError α :=
  match faults.error? call with
  | some e => .error e
  | .none => result

@[simp] theorem none_on (call : DiskCall) (result : Except DiskError α) :
    none.on call result = result := rfl

theorem on_eq_ok {faults : Faults} {call : DiskCall} {result : Except DiskError α} {a : α}
    (h : faults.on call result = .ok a) : faults.error? call = .none ∧ result = .ok a := by
  unfold on at h
  split at h
  · cases h
  · next hcall => exact ⟨hcall, h⟩

end Faults

def textOf (content : ByteArray) : Except DiskError String :=
  (String.fromUTF8? content).elim (.error .notText) .ok

structure Disk where
  nodes : FiniteMap DiskPath DiskNode

namespace Disk

def empty : Disk :=
  ⟨.empty⟩

def node? (disk : Disk) (path : DiskPath) : Option DiskNode :=
  if path = [] then some .directory else disk.nodes.get? path

def isFile (disk : Disk) (path : DiskPath) : Bool :=
  match disk.node? path with
  | some (.file _) => true
  | _ => false

def isDirectory (disk : Disk) (path : DiskPath) : Bool :=
  match disk.node? path with
  | some .directory => true
  | _ => false

/-- The paths above a path and the path itself, without the root. -/
def waysTo (path : DiskPath) : List DiskPath :=
  (List.range path.length).map fun n => path.take (n + 1)

def lookup (disk : Disk) (path : DiskPath) : Except DiskError DiskNode :=
  match disk.node? path with
  | some node => .ok node
  | none => .error (if (waysTo path).any disk.isFile then .notDirectory else .notFound)

/-- Whether anything is at a path. A path through a file is an error. -/
def holds (disk : Disk) (path : DiskPath) (faults : Faults := .none) : Except DiskError Bool :=
  match faults.on (.probe path) (disk.lookup path) with
  | .ok _ => .ok true
  | .error .notFound => .ok false
  | .error e => .error e

def readText (disk : Disk) (path : DiskPath) : Except DiskError String :=
  match disk.lookup path with
  | .ok (.file content) => textOf content
  | .ok .directory => .error .isDirectory
  | .error e => .error e

/-- The name under which a path stands in a directory, if it does. -/
def nameIn? (directory path : DiskPath) : Option String :=
  match List.isPrefixOf? directory path with
  | some [name] => some name
  | _ => none

/-- The names in a directory, in no particular order. -/
def names (disk : Disk) (directory : DiskPath) : Except DiskError (List String) :=
  match disk.lookup directory with
  | .ok .directory => .ok (disk.nodes.keys.filterMap (nameIn? directory))
  | .ok (.file _) => .error .notDirectory
  | .error e => .error e

def put (disk : Disk) (path : DiskPath) (node : DiskNode) : Disk :=
  ⟨disk.nodes.insert path node⟩

def addDirectory (disk : Disk) (path : DiskPath) : Disk :=
  if (disk.node? path).isSome then disk else disk.put path .directory

def addDirectories (disk : Disk) (path : DiskPath) : Except DiskError Disk :=
  if (waysTo path).any disk.isFile then .error .notDirectory
  else .ok ((waysTo path).foldl addDirectory disk)

/-- Writes a file, new or not, with the directories above it. -/
def writeFile (disk : Disk) (path : DiskPath) (content : ByteArray) : Except DiskError Disk := do
  let disk ← disk.addDirectories path.dropLast
  if disk.isDirectory path then throw .isDirectory
  pure (disk.put path (.file content))

/-- Writes a file where nothing has been, with the directories above it. -/
def createFile (disk : Disk) (path : DiskPath) (content : ByteArray) : Except DiskError Disk := do
  let disk ← disk.addDirectories path.dropLast
  if (disk.node? path).isSome then throw .alreadyExists
  pure (disk.put path (.file content))

def remove (disk : Disk) (path : DiskPath) : Disk :=
  ⟨disk.nodes.filterKeys fun key => !path.isPrefixOf key⟩

/-- Follows names from a directory. A dot and an empty name stay, and two dots go up. -/
def follow (disk : Disk) : DiskPath → List String → Except DiskError DiskPath
  | place, [] => .ok place
  | place, name :: rest =>
      match disk.lookup place with
      | .error e => .error e
      | .ok (.file _) => .error .notDirectory
      | .ok .directory =>
          if name = "" || name = "." then follow disk place rest
          else if name = ".." then follow disk place.dropLast rest
          else follow disk (place ++ [name]) rest

end Disk

end ContentForms

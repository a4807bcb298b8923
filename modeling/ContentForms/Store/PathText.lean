import ContentForms.Store.Disk
import ContentForms.Text.Split

/-!
Paths as texts, with a slash between the names. A path that is given keeps its spelling when it is
shown or extended; its names count only when it is followed on a disk.
-/

namespace ContentForms.PathText

def names (path : String) : List String :=
  (Text.pieces '/' path.toList).map String.ofList

/-- The path of a name under a directory. An empty text stands for the current directory. -/
def join (directory name : String) : String :=
  if directory.isEmpty || directory.toList.getLast? == some '/' then directory ++ name
  else directory ++ "/" ++ name

/-- The last name of a path, unless that leads up or there is none. -/
def fileName? (path : String) : Option String :=
  match ((names path).filter fun name => name ≠ "" && name ≠ ".").getLast? with
  | some name => if name = ".." then none else some name
  | none => none

/-- Where a path leads from the root of a disk, which is the current directory. -/
def locate (disk : Disk) (path : String) : Except DiskError DiskPath :=
  if path.isEmpty || path.toList.head? == some '/' then .error .notFound
  else disk.follow [] (names path)

def readText (disk : Disk) (path : String) : Except DiskError String :=
  (locate disk path).bind disk.readText

def directoryNames (disk : Disk) (path : String) : Except DiskError (List String) :=
  (locate disk path).bind disk.names

end ContentForms.PathText

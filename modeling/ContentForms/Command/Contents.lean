import ContentForms.Command.Outcome
import ContentForms.Store.Documents

/-!
The command `list` prints the content keys that have a schema below a content root, a line for each.
Where there is no directory of schemas there are no keys.
-/

namespace ContentForms.Command

def keyLine (key : ContentKey) : String :=
  key.type.text ++ "\t" ++ key.name.text ++ "\n"

/-- The names in a directory; none if there is no such directory. -/
def directoryNames (names : Except DiskError (List String)) : Except DiskError (List String) :=
  match names with
  | .error .notFound | .error .notDirectory => .ok []
  | names => names

def contents (list : String → Except DiskError (List String)) (root : String) : Outcome :=
  let directory := PathText.join root "cms"
  match directoryNames (list directory) with
  | .error e => .failed ["failed to read " ++ directory, "io error: " ++ e.message, e.message]
  | .ok names => .finished 0 (String.join ((Store.keysOf names).map keyLine))

end ContentForms.Command

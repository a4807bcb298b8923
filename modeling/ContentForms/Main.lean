import ContentForms.Command.Contents
import ContentForms.Command.Summarize
import ContentForms.Command.Validate

/-!
The command line: `validate`, `schema` and `list` on the files of the system.
-/

namespace ContentForms.Command

def usage : String :=
  "usage: cms validate --schema SCHEMA [--json] DOCUMENT\n" ++
    "       cms schema [--json] SCHEMA\n" ++
    "       cms list [--root ROOT]"

def diskError : IO.Error → DiskError
  | .noFileOrDirectory .. => .notFound
  | e => .other (toString e)

def readFile (path : String) : IO (Except DiskError String) := do
  try
    let content ← IO.FS.readBinFile path
    pure (textOf content)
  catch e => pure (.error (diskError e))

/-- The names in a directory. Only a directory that is there can fail to be read. -/
def listDirectory (path : String) : IO (Except DiskError (List String)) := do
  match ← (IO.FS.realPath path).toBaseIO with
  | .error _ => pure (.error .notFound)
  | .ok directory =>
      if !(← directory.isDir) then pure (.error .notDirectory)
      else
        try
          let entries ← directory.readDir
          pure (.ok (entries.toList.map fun entry => entry.fileName))
        catch e => pure (.error (diskError e))

def report (outcome : Outcome) : IO UInt32 := do
  IO.print outcome.output
  if let some error := outcome.error then IO.eprintln ("error: " ++ error)
  pure (UInt32.ofNat outcome.exitCode)

/-- Reads files once, so that a command sees each as it was. -/
def readAll (paths : List String) : IO FileReader := do
  let texts ← paths.mapM fun path => do pure (path, ← readFile path)
  pure fun path => (texts.lookup path).getD (.error .notFound)

def run (arguments : List String) : IO UInt32 := do
  let json := arguments.contains "--json"
  match arguments.filter (· ≠ "--json") with
  | ["validate", "--schema", schema, document] | ["validate", document, "--schema", schema] =>
      report (validate (← readAll [schema, document]) schema document json)
  | ["schema", schema] => report (summarize (← readAll [schema]) schema json)
  | ["list"] => list "./public"
  | ["list", "--root", root] => list root
  | _ => do
      IO.eprintln usage
      pure 2
where
  list (root : String) : IO UInt32 := do
    let names ← listDirectory (PathText.join root "cms")
    report (contents (fun _ => names) root)

end ContentForms.Command

def main (arguments : List String) : IO UInt32 :=
  ContentForms.Command.run arguments

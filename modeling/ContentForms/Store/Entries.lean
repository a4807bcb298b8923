import ContentForms.Calendar.Instant
import ContentForms.Store.Documents

/-!
The entries of a blog. Every document beside the index is an entry, and its slug is the name of its
file. A list of entries begins with the latest date; entries with the same date are in the order of
their slugs, and so are those without a date, which come last.
-/

namespace ContentForms

structure Entry where
  slug : String
  document : Json
  deriving DecidableEq

namespace Entry

def instant? (entry : Entry) : Option Calendar.Instant :=
  ((entry.document.at? ["meta", "date"]).bind Json.text?).bind Calendar.Instant.ofText?

/-- Whether an entry may stand before another one in a list. -/
def le (a b : Entry) : Bool :=
  match a.instant?, b.instant? with
  | some x, some y => y < x || (x == y && decide (a.slug ≤ b.slug))
  | some _, none => true
  | none, some _ => false
  | none, none => decide (a.slug ≤ b.slug)

def sort (entries : List Entry) : List Entry :=
  entries.mergeSort le

/-- An entry as one object, in which the slug of the file takes the place of any other. -/
def toJson (entry : Entry) : Json :=
  match entry.document with
  | .obj members => .obj (Assoc.insert "slug" (.str entry.slug) members)
  | document => Json.object [("slug", .str entry.slug), ("data", document)]

/-- The slug of the entry in a file of the given name, if the file holds one. -/
def slugOfFileName? (fileName : String) : Option String :=
  if fileName = Layout.indexFile then none
  else (Text.dropEnd? ".json" fileName.toList).map String.ofList

end Entry

namespace Store

/-- The entry in a file of a blog's directory; nothing if the file holds none. -/
def entryAt? (disk : Disk) (blog : ContentName) (fileName : String) (faults : Faults := .none) :
    Except StoreError (Option Entry) :=
  match Entry.slugOfFileName? fileName with
  | none => .ok none
  | some slug =>
      (document? disk (Layout.blog blog ++ [fileName]) faults).map fun document =>
        document.map (⟨slug, ·⟩)

def entries (disk : Disk) (blog : ContentName) (faults : Faults := .none) :
    Except StoreError (List Entry) :=
  match faults.on (.list (Layout.blog blog)) (disk.names (Layout.blog blog)) with
  | .error .notFound => .ok []
  | .error e => .error (.disk e)
  | .ok names =>
      (names.mapM (entryAt? disk blog · faults)).map fun found => Entry.sort (found.filterMap id)

end Store

end ContentForms
